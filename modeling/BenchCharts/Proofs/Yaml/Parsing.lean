import BenchCharts.Proofs.Yaml.Stream

/-!
Written values read back. The tokens of a written text give the tree of its value: scalars in the
style in which they were written, collections with their entries in order.
-/
namespace BenchCharts.Yaml

open Format (Value)
open NodeScan

mutual

/-- The tree of a written value. -/
def nodeOf : Value → Node
  | .null => .scalar none .plain "null"
  | .natural n => .scalar none .plain (String.ofList (Nat.toDigits 10 n))
  | .real x => .scalar none .plain (numberForm.write x)
  | .text s => .scalar none (styleOf false s) s
  | .list items => .sequence none (nodesOf items)
  | .record members => .mapping none (membersOf members)

def nodesOf : List Value → List Node
  | [] => []
  | item :: rest => nodeOf item :: nodesOf rest

def membersOf : List (String × Value) → List (Node × Node)
  | [] => []
  | (name, value) :: rest => (.scalar none (nameStyle name) name, nodeOf value) :: membersOf rest

end

/-- Tokens without anchors. -/
def scanOf (handles : List (String × String)) (tokens : List Token) : NodeScan :=
  ⟨tokens, [], [], handles⟩

variable (handles : List (String × String)) (fuel : Nat) (unindented : Bool) (rest : List Token)

theorem node_scalar (style : ScalarStyle) (text : String) :
    node (fuel + 1) true unindented (scanOf handles (.scalar style text :: rest)) =
      (.scalar none style text, scanOf handles rest) := by
  simp [node, scanOf, properties, peek, define, fill, NodeScan.skip]

theorem node_sequence :
    node (fuel + 1) true unindented (scanOf handles (.sequenceStart :: rest)) =
      let found := blockItems fuel (scanOf handles rest)
      (.sequence none found.1, found.2) := by
  simp [node, scanOf, properties, peek, define, fill, NodeScan.skip]

theorem node_mapping :
    node (fuel + 1) true unindented (scanOf handles (.mappingStart :: rest)) =
      let found := blockMembers fuel (scanOf handles rest)
      (.mapping none found.1, found.2) := by
  simp [node, scanOf, properties, peek, define, fill, NodeScan.skip]

theorem node_unindented :
    node (fuel + 1) true true (scanOf handles (.blockEntry :: rest)) =
      let found := unindentedItems fuel (scanOf handles (.blockEntry :: rest))
      (.sequence none found.1, found.2) := by
  simp [node, scanOf, properties, peek, define, fill]

theorem node_emptySequence :
    node (fuel + 2) true unindented
        (scanOf handles (.flowSequenceStart :: .flowSequenceEnd :: rest)) =
      (.sequence none [], scanOf handles rest) := by
  simp [node, scanOf, properties, peek, define, fill, NodeScan.skip, flowItems, separate]

theorem node_emptyMapping :
    node (fuel + 2) true unindented
        (scanOf handles (.flowMappingStart :: .flowMappingEnd :: rest)) =
      (.mapping none [], scanOf handles rest) := by
  simp [node, scanOf, properties, peek, define, fill, NodeScan.skip, flowMembers, separate]

theorem nodeUnless_cons (ends : Token → Bool) (t : Token) (h : ends t = false) :
    nodeUnless (fuel + 1) ends true unindented (scanOf handles (t :: rest)) =
      node fuel true unindented (scanOf handles (t :: rest)) := by
  simp [nodeUnless, scanOf, peek, h]

theorem blockItems_entry :
    blockItems (fuel + 1) (scanOf handles (.blockEntry :: rest)) =
      let item := nodeUnless fuel (fun t => t = .blockEntry || t = .blockEnd) true false
        (scanOf handles rest)
      let more := blockItems fuel item.2
      (item.1 :: more.1, more.2) := by
  simp [blockItems, scanOf, peek, NodeScan.skip]

theorem unindentedItems_entry :
    unindentedItems (fuel + 1) (scanOf handles (.blockEntry :: rest)) =
      let item := nodeUnless fuel (fun t => t = .blockEntry || endsBlock t) true false
        (scanOf handles rest)
      let more := unindentedItems fuel item.2
      (item.1 :: more.1, more.2) := by
  simp [unindentedItems, scanOf, peek, NodeScan.skip]

theorem blockMembers_key :
    blockMembers (fuel + 1) (scanOf handles (.key :: rest)) =
      let key := nodeUnless fuel endsBlock true true (scanOf handles rest)
      let value := valueOf fuel endsBlock true true key.2
      let more := blockMembers fuel value.2
      ((key.1, value.1) :: more.1, more.2) := by
  simp [blockMembers, scanOf, peek, NodeScan.skip]

theorem valueOf_value :
    valueOf (fuel + 1) endsBlock true true (scanOf handles (.value :: rest)) =
      nodeUnless fuel endsBlock true true (scanOf handles rest) := by
  simp [valueOf, scanOf, peek, NodeScan.skip]

/-- A token that starts a value and ends nothing. -/
structure StartsValue (t : Token) : Prop where
  block : endsBlock t = false
  header : startsHeader t = false
  stream : t ≠ .streamEnd

omit fuel unindented rest in
theorem exists_valueTokens (place : Place) (v : Value) :
    ∃ t later, valueTokens place v = t :: later ∧ StartsValue t ∧
      (place ≠ .name → t ≠ .blockEntry) := by
  match v with
  | .null | .natural _ | .real _ | .text _ =>
    exact ⟨_, _, by rw [valueTokens], ⟨rfl, rfl, by simp⟩, by simp⟩
  | .list [] | .record [] =>
    exact ⟨_, _, by rw [valueTokens]; rfl, ⟨rfl, rfl, by simp⟩, by simp⟩
  | .record (member :: rest) =>
    exact ⟨_, _, by rw [valueTokens]; rfl, ⟨rfl, rfl, by simp⟩, by simp⟩
  | .list (item :: rest) =>
    by_cases hplace : place = .name
    · exact ⟨.blockEntry, valueTokens .mark item ++ itemTokens rest,
        by simp [valueTokens, hplace, itemTokens], ⟨rfl, rfl, by simp⟩, fun h => absurd hplace h⟩
    · exact ⟨.sequenceStart, itemTokens (item :: rest) ++ [.blockEnd],
        by simp [valueTokens, hplace],
        ⟨rfl, rfl, by simp⟩, by simp⟩

/-- A value is not missing where only what ends its block could stand in its place. -/
theorem nodeUnless_valueTokens (ends : Token → Bool) (place : Place) (v : Value)
    (h : ∀ t, StartsValue t → (place ≠ .name → t ≠ .blockEntry) → ends t = false) :
    nodeUnless (fuel + 1) ends true unindented (scanOf handles (valueTokens place v ++ rest)) =
      node fuel true unindented (scanOf handles (valueTokens place v ++ rest)) := by
  obtain ⟨t, later, heq, hstarts, hentry⟩ := exists_valueTokens place v
  rw [heq, List.cons_append]
  exact nodeUnless_cons handles fuel unindented _ ends t (h t hstarts hentry)

mutual

/-- The tokens of a value give its tree. A list without brackets must not be followed by another
entry. -/
theorem node_valueTokens (v : Value) (place : Place) (fuel : Nat) (unindented : Bool)
    (rest : List Token)
    (hfuel : 2 * (valueTokens place v).length + (if place = .name then 2 else 1) ≤ fuel)
    (hplace : place = .name → unindented = true ∧ rest ≠ [] ∧ rest.head? ≠ some .blockEntry) :
    node fuel true unindented (scanOf handles (valueTokens place v ++ rest)) =
      (nodeOf v, scanOf handles rest) := by
  obtain ⟨fuel, rfl⟩ : ∃ k, fuel = k + 1 := ⟨fuel - 1, by split at hfuel <;> omega⟩
  match v with
  | .null =>
    rw [valueTokens, nodeOf, List.singleton_append]
    exact node_scalar handles fuel unindented rest _ _
  | .natural n =>
    rw [valueTokens, nodeOf, List.singleton_append]
    exact node_scalar handles fuel unindented rest _ _
  | .real x =>
    rw [valueTokens, nodeOf, List.singleton_append]
    exact node_scalar handles fuel unindented rest _ _
  | .text s =>
    rw [valueTokens, nodeOf, List.singleton_append]
    exact node_scalar handles fuel unindented rest _ _
  | .list [] =>
    obtain ⟨fuel, rfl⟩ : ∃ k, fuel = k + 1 := ⟨fuel - 1, by simp [valueTokens] at hfuel; omega⟩
    simpa [valueTokens, nodeOf, nodesOf] using node_emptySequence handles fuel unindented rest
  | .record [] =>
    obtain ⟨fuel, rfl⟩ : ∃ k, fuel = k + 1 := ⟨fuel - 1, by simp [valueTokens] at hfuel; omega⟩
    simpa [valueTokens, nodeOf, membersOf] using node_emptyMapping handles fuel unindented rest
  | .list (item :: more) =>
    have hlength : valueTokens place (.list (item :: more)) =
        if place = .name then itemTokens (item :: more)
        else .sequenceStart :: itemTokens (item :: more) ++ [.blockEnd] := by simp [valueTokens]
    rw [hlength] at hfuel ⊢
    by_cases hname : place = .name
    · obtain ⟨rfl, hne, hhead⟩ := hplace hname
      rw [if_pos hname, if_pos hname] at hfuel
      rw [if_pos hname]
      have hitems := unindentedItems_itemTokens (item :: more) fuel rest (by omega) hne hhead
      rw [itemTokens, List.cons_append, List.cons_append, node_unindented]
      rw [itemTokens, List.cons_append, List.cons_append] at hitems
      simp only [hitems]
      rw [nodeOf]
    · rw [if_neg hname, if_neg hname] at hfuel
      simp only [List.length_cons, List.length_append, List.length_nil] at hfuel
      rw [if_neg hname, List.append_assoc, List.cons_append, node_sequence]
      have hitems := blockItems_itemTokens (item :: more) fuel rest (by omega)
      simp only [List.singleton_append, hitems]
      rw [nodeOf]
  | .record (member :: more) =>
    have hlength : valueTokens place (.record (member :: more)) =
        .mappingStart :: memberTokens (member :: more) ++ [.blockEnd] := by simp [valueTokens]
    rw [hlength] at hfuel ⊢
    simp only [List.length_cons, List.length_append, List.length_nil] at hfuel
    have hbound : 2 * (memberTokens (member :: more)).length + 1 ≤ fuel := by
      split at hfuel <;> omega
    rw [List.append_assoc, List.cons_append, node_mapping]
    have hmembers := blockMembers_memberTokens (member :: more) fuel rest hbound
    simp only [List.singleton_append, hmembers]
    rw [nodeOf]

theorem blockItems_itemTokens (items : List Value) (fuel : Nat) (rest : List Token)
    (hfuel : 2 * (itemTokens items).length + 1 ≤ fuel) :
    blockItems fuel (scanOf handles (itemTokens items ++ .blockEnd :: rest)) =
      (nodesOf items, scanOf handles rest) := by
  obtain ⟨fuel, rfl⟩ : ∃ k, fuel = k + 1 := ⟨fuel - 1, by omega⟩
  match items with
  | [] => simp [itemTokens, nodesOf, blockItems, scanOf, peek, NodeScan.skip]
  | item :: more =>
    simp only [itemTokens, List.length_cons, List.length_append] at hfuel
    obtain ⟨fuel, rfl⟩ : ∃ k, fuel = k + 1 := ⟨fuel - 1, by omega⟩
    have hitem := node_valueTokens item .mark fuel false (itemTokens more ++ .blockEnd :: rest)
      (by rw [if_neg (by decide)]; omega) (by simp)
    have hmore := blockItems_itemTokens more (fuel + 1) rest (by omega)
    have hunless := nodeUnless_valueTokens handles fuel false (itemTokens more ++ .blockEnd :: rest)
      (fun t => t = .blockEntry || t = .blockEnd) .mark item fun t hstarts hentry => by
        have hblock := hstarts.block
        simp only [endsBlock, Bool.or_eq_false_iff] at hblock
        rw [hblock.2, decide_eq_false (hentry (by decide)), Bool.false_or]
    rw [itemTokens, List.cons_append, List.cons_append, List.append_assoc, blockItems_entry,
      hunless, hitem, nodesOf]
    simp only [hmore]

theorem unindentedItems_itemTokens (items : List Value) (fuel : Nat) (rest : List Token)
    (hfuel : 2 * (itemTokens items).length + 1 ≤ fuel) (hne : rest ≠ [])
    (hhead : rest.head? ≠ some .blockEntry) :
    unindentedItems fuel (scanOf handles (itemTokens items ++ rest)) =
      (nodesOf items, scanOf handles rest) := by
  obtain ⟨fuel, rfl⟩ : ∃ k, fuel = k + 1 := ⟨fuel - 1, by omega⟩
  match items with
  | [] =>
    obtain ⟨t, rest, rfl⟩ := List.exists_cons_of_ne_nil hne
    simp only [List.head?_cons, ne_eq, Option.some.injEq] at hhead
    simp [itemTokens, nodesOf, unindentedItems, scanOf, peek]
  | item :: more =>
    simp only [itemTokens, List.length_cons, List.length_append] at hfuel
    obtain ⟨fuel, rfl⟩ : ∃ k, fuel = k + 1 := ⟨fuel - 1, by omega⟩
    have hitem := node_valueTokens item .mark fuel false (itemTokens more ++ rest)
      (by rw [if_neg (by decide)]; omega) (by simp)
    have hmore := unindentedItems_itemTokens more (fuel + 1) rest (by omega) hne hhead
    have hunless := nodeUnless_valueTokens handles fuel false (itemTokens more ++ rest)
      (fun t => t = .blockEntry || endsBlock t) .mark item fun t hstarts hentry => by
        rw [hstarts.block, decide_eq_false (hentry (by decide)), Bool.false_or]
    rw [itemTokens, List.cons_append, List.cons_append, List.append_assoc, unindentedItems_entry,
      hunless, hitem, nodesOf]
    simp only [hmore]

theorem blockMembers_memberTokens (members : List (String × Value)) (fuel : Nat) (rest : List Token)
    (hfuel : 2 * (memberTokens members).length + 1 ≤ fuel) :
    blockMembers fuel (scanOf handles (memberTokens members ++ .blockEnd :: rest)) =
      (membersOf members, scanOf handles rest) := by
  obtain ⟨fuel, rfl⟩ : ∃ k, fuel = k + 1 := ⟨fuel - 1, by omega⟩
  match members with
  | [] => simp [memberTokens, membersOf, blockMembers, scanOf, peek, NodeScan.skip]
  | (name, value) :: more =>
    simp only [memberTokens, List.length_cons, List.length_append] at hfuel
    obtain ⟨fuel, rfl⟩ : ∃ k, fuel = k + 1 + 1 := ⟨fuel - 2, by omega⟩
    have hnext : (memberTokens more ++ .blockEnd :: rest).head? ≠ some .blockEntry := by
      cases more with
      | nil => simp [memberTokens]
      | cons member more => simp [memberTokens]
    have hvalue := node_valueTokens value (namePlace name) fuel true
      (memberTokens more ++ .blockEnd :: rest) (by split <;> omega) fun _ => ⟨rfl, by simp, hnext⟩
    have hmore := blockMembers_memberTokens more (fuel + 1 + 1) rest (by omega)
    have hunless := nodeUnless_valueTokens handles fuel true
      (memberTokens more ++ .blockEnd :: rest) endsBlock (namePlace name) value
      fun _ hstarts _ => hstarts.block
    rw [memberTokens, List.cons_append, List.cons_append, List.cons_append, List.cons_append,
      List.append_assoc, blockMembers_key, nodeUnless_cons handles (fuel + 1) true _ _ _ rfl,
      node_scalar, membersOf]
    simp only [List.cons_append, valueOf_value, hunless, hvalue, hmore]

end

/-- A written text holds one document, and nothing but the tree of its value. -/
theorem parse_write (v : Value) : Document.parse (write v) = ⟨nodeOf v, [], true⟩ := by
  obtain ⟨t, later, heq, ⟨-, hheader, hstream⟩, -⟩ := exists_valueTokens .top v
  have hnode := node_valueTokens standardHandles v .top
    (2 * (valueTokens .top v ++ [Token.streamEnd]).length + 2) false [.streamEnd]
    (by simp only [List.length_append]; split <;> omega) (by simp)
  rw [Document.parse, tokens_write]
  rw [heq, List.cons_append] at hnode ⊢
  have hofTokens : Document.ofTokens (t :: (later ++ [Token.streamEnd])) =
      Document.ofScan (node (2 * (t :: (later ++ [Token.streamEnd])).length + 2) true false
        (scanOf standardHandles (t :: (later ++ [Token.streamEnd])))) := by
    unfold Document.ofTokens
    split
    · simp at *
    · simp_all
    · simp_all [scanOf]
  rw [hofTokens, hnode]
  rfl

end BenchCharts.Yaml
