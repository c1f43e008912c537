import BenchCharts.Json.Reading
import BenchCharts.Proofs.Decimal.WholeDoubles
import BenchCharts.Proofs.Format.Rendering
import BenchCharts.Proofs.Json.Parsing

/-!
The trees of written values are read as those values. Numbers are read as doubles, so whole numbers
are kept up to 53 bits.
-/
namespace BenchCharts.Json

open Decimal (IsMagnitude ne_word_of_startsNumber startsNumber_magnitude)
open Format (Decoded IsBound Rendering Value)

theorem numberValue?_written {sign text : List Char} (hsign : sign = [] ∨ sign = ['-'])
    (h : IsMagnitude text) :
    numberValue? (sign ++ text) = numberValue?.finite? (sign ++ text) := by
  have hstart := startsNumber_magnitude hsign h
  have hword (word : String) (hword : Decimal.startsNumber word.toList = false) :
      String.ofList (sign ++ text) ≠ word := ne_word_of_startsNumber hstart word hword
  simp only [numberValue?, hword "Infinity" (by decide), hword "-Infinity" (by decide),
    hword "NaN" (by decide), hword "-NaN" (by decide), or_self, if_false]
  split
  · next x digits heq =>
    -- A zero in front is all the whole digits, and no mark of a base follows them.
    obtain ⟨whole, fraction, power, rfl, hwhole, hfraction, hpower⟩ := h
    obtain ⟨c, ds, rfl, -⟩ := hwhole.exists_cons
    have hx : x ≠ 'x' ∧ x ≠ 'X' := by
      rcases hsign with rfl | rfl
      · simp only [List.nil_append, List.cons_append, List.cons.injEq] at heq
        have hds : ds = [] := by simpa [heq.1] using hwhole.eq_zero (by simp [heq.1])
        have hhead := head_fraction endsNumber_nil hfraction hpower x
          (by simpa [hds] using congrArg List.head? heq.2)
        exact hhead.2
      · simp at heq
    rw [if_neg (by simp [hx])]
  · rfl

theorem readReal_written {x : Float} (hfinite : x.isFinite = true) (h : numberForm.Keeps x) :
    (nodeOf (.real x)).readReal = .ok x := by
  obtain ⟨sign, magnitude, hsign, hmagnitude, htext⟩ := h.exists_magnitude (by decide)
  have hvalue : numberValue? (numberForm.write x).toList = some x := by
    rw [htext, numberValue?_written hsign hmagnitude, ← htext]
    unfold numberValue?.finite?
    rw [h]
    simp [Except.toOption, hfinite]
  rw [nodeOf, if_neg (ne_null_of_number hsign hmagnitude htext), Node.readReal, hvalue]

theorem readNatural_written {n bound : Nat} (h : n ≤ bound) (hbound : IsBound bound)
    (hn : n ≤ 2 ^ 53) : (nodeOf (.natural n)).readNatural bound = .ok n := by
  have hfinite : (Float.ofNat n).isFinite = true := by
    by_cases hlarge : n = 2 ^ 53
    · rw [hlarge]
      decide +kernel
    · exact Decimal.isFinite_ofNat (by omega)
  have hvalue : numberValue? (Nat.toDigits 10 n) = some (Float.ofNat n) := by
    have hwritten := numberValue?_written (.inl rfl) (Decimal.isMagnitude_toDigits n)
    rw [List.nil_append] at hwritten
    rw [hwritten, numberValue?.finite?, Decimal.readReal_toDigits, Decimal.toFloat_whole hn]
    simp [Except.toOption, hfinite]
  have hsmall : bound < 2 ^ 53 ∨ bound = Decimal.maxWord :=
    hbound.imp_left fun hle => Nat.lt_of_le_of_lt hle (by decide)
  rw [nodeOf, Node.readNatural, Node.readReal, hvalue]
  simp [Except.map, Decimal.saturate_ofNat h hn hsmall]

theorem nodesOf_eq_map (items : List Value) : nodesOf items = items.map nodeOf := by
  induction items with
  | nil => rfl
  | cons item rest ih => rw [nodesOf, ih, List.map_cons]

theorem membersOf_eq_map (members : List (String × Value)) :
    membersOf members = members.map fun (name, v) => (some name, nodeOf v) := by
  induction members with
  | nil => rfl
  | cons member rest ih =>
    obtain ⟨name, v⟩ := member
    rw [membersOf, ih, List.map_cons]

def rendering : Rendering Node where
  node := nodeOf
  name s := .text (some s)
  form := numberForm
  largest := 2 ^ 53
  text_name _ := rfl
  text_node _ := by rw [nodeOf]; rfl
  choice_node _ := by rw [nodeOf]; rfl
  natural_node := readNatural_written
  real_node := readReal_written
  isNull_null := by rw [nodeOf]; rfl
  isNull_text _ := by rw [nodeOf]; rfl
  isNull_list _ := by rw [nodeOf]; rfl
  items_node items := by
    rw [nodeOf, nodesOf_eq_map]
    rfl
  members_node members := by
    rw [nodeOf, membersOf_eq_map]
    simp [Format.Source.members, Node.readMembers]

/-- A written text is decoded as the tree of its value is read. -/
theorem decode_write {α : Type} {read : Node → Decoded α} {v : Value} {a : α}
    (h : rendering.Reads read v a) : decode read (write v) = .ok a := by
  rw [decode, parse?_write]
  exact h

/-- What is refused as a tree is refused as a text. -/
theorem decode_write_refused {α : Type} {read : Node → Decoded α} {v : Value}
    (h : ∃ e, read (rendering.node v) = .error e) : ∃ e, decode read (write v) = .error e := by
  rw [decode, parse?_write]
  exact h

end BenchCharts.Json
