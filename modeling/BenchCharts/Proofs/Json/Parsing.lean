import BenchCharts.Proofs.Json.Tokens

/-!
Written values read back. A written text is read to its end and gives the tree of its value:
numbers as they were written, strings without their escapes, and collections with their entries in
order. Doubles that are no numbers give a null.
-/
namespace BenchCharts.Json

open Decimal (IsMagnitude)
open Format (Value)

mutual

/-- The tree of a written value. -/
def nodeOf : Value → Node
  | .null => .null
  | .natural n => .number (Nat.toDigits 10 n)
  | .real x => if numberForm.write x = "null" then .null else .number (numberForm.write x).toList
  | .text s => .text (some s)
  | .list items => .array (nodesOf items)
  | .record members => .object (membersOf members)

def nodesOf : List Value → List Node
  | [] => []
  | item :: rest => nodeOf item :: nodesOf rest

def membersOf : List (String × Value) → List (Option String × Node)
  | [] => []
  | (name, value) :: rest => (some name, nodeOf value) :: membersOf rest

end

/-- The characters with which a number can start. -/
def numberStarts : List Char := ['-', '0', '1', '2', '3', '4', '5', '6', '7', '8', '9']

theorem mem_numberStarts (c : Char) (h : c.isDigit) : c ∈ numberStarts := by
  have hbounds : 48 ≤ c.toNat ∧ c.toNat ≤ 57 := by
    simpa [Char.isDigit, UInt32.le_iff_toNat_le] using h
  have hall : ∀ n, n < 58 → 48 ≤ n → Char.ofNat n ∈ numberStarts := by decide
  have hmem := hall c.toNat (by omega) hbounds.1
  rwa [Char.ofNat_toNat] at hmem

theorem exists_signed {sign text : List Char} (hsign : sign = [] ∨ sign = ['-'])
    (h : IsMagnitude text) : ∃ c cs, sign ++ text = c :: cs ∧ c ∈ numberStarts := by
  rcases hsign with rfl | rfl
  · obtain ⟨c, rest, rfl, hc⟩ := h.exists_cons
    exact ⟨c, rest, rfl, mem_numberStarts c hc⟩
  · exact ⟨'-', text, rfl, by decide⟩

section Steps

variable (fuel : Nat) (rest : List Char)

theorem value_null : value (fuel + 1) ('n' :: 'u' :: 'l' :: 'l' :: rest) = some (.null, rest) := by
  rw [value]

theorem value_string (s : String) :
    value (fuel + 1) (string s ++ rest) = some (.text (some s), rest) := by
  have hstring := stringFrom_string s rest
  simp only [string, List.cons_append, List.append_assoc, List.nil_append] at hstring ⊢
  rw [value, hstring]
  rfl

theorem value_number {sign text : List Char} (hsign : sign = [] ∨ sign = ['-'])
    (h : IsMagnitude text) (hrest : EndsNumber rest) :
    value (fuel + 1) (sign ++ text ++ rest) = some (.number (sign ++ text), rest) := by
  have hnumber := number_append hrest hsign h
  obtain ⟨c, cs, heq, hc⟩ := exists_signed hsign h
  rw [heq, List.cons_append] at hnumber ⊢
  have hall : ∀ d ∈ numberStarts, d ∉ ['n', 't', 'f', '"', '\'', '[', '\x7b'] := by decide
  have hother := hall c hc
  unfold value
  split <;> simp_all

theorem key_string (name : String) :
    key (string name ++ rest) = some (some name, rest) := by
  have hstring := stringFrom_string name rest
  simp only [string, List.cons_append, List.append_assoc, List.nil_append] at hstring ⊢
  exact hstring

variable {fuel rest} {cs after later : List Char}

section
variable {c : Char} {text : List Char} {item : Node} (hskip : skip cs = some (c :: text))
  (hc : c ≠ ']') (hvalue : value fuel (c :: text) = some (item, after))
include hskip hc hvalue

theorem items_last (hend : skip after = some (']' :: rest)) :
    items (fuel + 1) cs = some ([item], rest) := by
  rw [items]
  simp only [hskip, Option.bind_eq_bind, Option.bind_some]
  split <;> simp_all

theorem items_more {more : List Node} (hend : skip after = some (',' :: later))
    (hmore : items fuel later = some (more, rest)) :
    items (fuel + 1) cs = some (item :: more, rest) := by
  rw [items]
  simp only [hskip, Option.bind_eq_bind, Option.bind_some]
  split <;> simp_all

end

section
variable {name : String} {text : List Char} {content : Node}
  (hskip : skip cs = some (string name ++ ':' :: text))
  (hvalue : (skip text).bind (value fuel) = some (content, after))
include hskip hvalue

theorem members_last (hend : skip after = some ('\x7d' :: rest)) :
    members (fuel + 1) cs = some ([(some name, content)], rest) := by
  have hcolon : skip (':' :: text) = some (':' :: text) := skip_start _ _ (by decide)
  obtain ⟨start, hstart, hread⟩ := Option.bind_eq_some_iff.mp hvalue
  rw [members]
  simp only [hskip, Option.bind_eq_bind, Option.bind_some]
  split
  · next heq => simp [string] at heq
  · simp [key_string, hcolon, hstart, hread, hend]

theorem members_more {more : List (Option String × Node)} (hend : skip after = some (',' :: later))
    (hmore : members fuel later = some (more, rest)) :
    members (fuel + 1) cs = some ((some name, content) :: more, rest) := by
  have hcolon : skip (':' :: text) = some (':' :: text) := skip_start _ _ (by decide)
  obtain ⟨start, hstart, hread⟩ := Option.bind_eq_some_iff.mp hvalue
  rw [members]
  simp only [hskip, Option.bind_eq_bind, Option.bind_some]
  split
  · next heq => simp [string] at heq
  · simp [key_string, hcolon, hstart, hread, hend, hmore]

end

end Steps

/-- What is written of a double. -/
theorem real_cases (x : Float) :
    numberForm.write x = "null" ∨ ∃ sign magnitude, (sign = [] ∨ sign = ['-']) ∧
      IsMagnitude magnitude ∧ (numberForm.write x).toList = sign ++ magnitude := by
  rcases Decimal.write_cases numberForm x with h | h | h | h
  · exact .inl h
  · exact .inl h
  · exact .inl h
  · exact .inr h

theorem ne_null_of_number {x : Float} {sign magnitude : List Char}
    (hsign : sign = [] ∨ sign = ['-']) (h : IsMagnitude magnitude)
    (htext : (numberForm.write x).toList = sign ++ magnitude) : numberForm.write x ≠ "null" := by
  have hother := Decimal.ne_word_of_startsNumber (Decimal.startsNumber_magnitude hsign h) "null"
    (by decide)
  rwa [← htext, String.ofList_toList] at hother

/-- A value starts with a character that starts a token and closes no list. -/
theorem exists_writeAt (depth : Nat) (v : Value) :
    ∃ c text, writeAt depth v = c :: text ∧ StartsToken c ∧ c ≠ ']' := by
  have hnumber {sign magnitude : List Char} (hsign : sign = [] ∨ sign = ['-'])
      (h : IsMagnitude magnitude) :
      ∃ c text, sign ++ magnitude = c :: text ∧ StartsToken c ∧ c ≠ ']' := by
    obtain ⟨c, cs, heq, hc⟩ := exists_signed hsign h
    have hall : ∀ d ∈ numberStarts, StartsToken d ∧ d ≠ ']' := by decide
    exact ⟨c, cs, heq, hall c hc⟩
  match v with
  | .null => exact ⟨'n', _, by rw [writeAt], by decide⟩
  | .natural n =>
    rw [writeAt]
    exact hnumber (.inl rfl) (Decimal.isMagnitude_toDigits n)
  | .real x =>
    rw [writeAt]
    rcases real_cases x with hnull | ⟨sign, magnitude, hsign, hmagnitude, htext⟩
    · rw [hnull]
      exact ⟨'n', _, rfl, by decide⟩
    · rw [htext]
      exact hnumber hsign hmagnitude
  | .text s => exact ⟨'"', _, by rw [writeAt, string]; rfl, by decide⟩
  | .list [] => exact ⟨'[', _, by rw [writeAt], by decide⟩
  | .list (item :: rest) => exact ⟨'[', _, by rw [writeAt]; rfl, by decide⟩
  | .record [] => exact ⟨'\x7b', _, by rw [writeAt], by decide⟩
  | .record ((name, content) :: rest) => exact ⟨'\x7b', _, by rw [writeAt]; rfl, by decide⟩

section Values

mutual

theorem value_writeAt (depth : Nat) (v : Value) (fuel : Nat) (rest : List Char)
    (hfuel : (writeAt depth v).length < fuel) (hrest : EndsNumber rest) :
    value fuel (writeAt depth v ++ rest) = some (nodeOf v, rest) := by
  obtain ⟨fuel, rfl⟩ : ∃ k, fuel = k + 1 := ⟨fuel - 1, by omega⟩
  match v with
  | .null =>
    rw [writeAt, nodeOf]
    exact value_null fuel rest
  | .natural n =>
    rw [writeAt, nodeOf]
    exact value_number fuel rest (.inl rfl) (Decimal.isMagnitude_toDigits n) hrest
  | .real x =>
    rw [writeAt, nodeOf]
    rcases real_cases x with hnull | ⟨sign, magnitude, hsign, hmagnitude, htext⟩
    · rw [if_pos hnull, hnull]
      exact value_null fuel rest
    · rw [if_neg (ne_null_of_number hsign hmagnitude htext), htext]
      exact value_number fuel rest hsign hmagnitude hrest
  | .text s =>
    rw [writeAt, nodeOf]
    exact value_string fuel rest s
  | .list [] =>
    obtain ⟨fuel, rfl⟩ : ∃ k, fuel = k + 1 := ⟨fuel - 1, by simp [writeAt] at hfuel; omega⟩
    have hclosed : items (fuel + 1) (']' :: rest) = some ([], rest) := by
      simp [items, skip_start ']' rest (by decide)]
    simp [writeAt, value, hclosed, nodeOf, nodesOf]
  | .record [] =>
    obtain ⟨fuel, rfl⟩ : ∃ k, fuel = k + 1 := ⟨fuel - 1, by simp [writeAt] at hfuel; omega⟩
    have hclosed : members (fuel + 1) ('\x7d' :: rest) = some ([], rest) := by
      simp [members, skip_start '\x7d' rest (by decide)]
    simp [writeAt, value, hclosed, nodeOf, membersOf]
  | .list (item :: more) =>
    simp only [writeAt, List.length_append, List.length_cons, List.length_nil] at hfuel
    have hitems := items_written (depth + 1) depth item more fuel rest (by omega)
      (value_writeAt (depth + 1) item)
    simp only [writeAt, List.cons_append, List.append_assoc, List.nil_append] at hitems ⊢
    rw [value, hitems, nodeOf, nodesOf]
    rfl
  | .record ((name, content) :: more) =>
    simp only [writeAt, List.length_append, List.length_cons, List.length_nil] at hfuel
    have hmembers := members_written (depth + 1) depth name content more fuel rest (by omega)
      (value_writeAt (depth + 1) content)
    simp only [writeAt, List.cons_append, List.append_assoc, List.nil_append] at hmembers ⊢
    rw [value, hmembers, nodeOf, membersOf]
    rfl

/-- The items of a list, of which the first one is known to be read. -/
theorem items_written (depth outer : Nat) (item : Value) (more : List Value) (fuel : Nat)
    (rest : List Char)
    (hfuel : (writeAt depth item).length + (writeItems depth more).length + 1 < fuel)
    (hitem : ∀ fuel rest, (writeAt depth item).length < fuel → EndsNumber rest →
      value fuel (writeAt depth item ++ rest) = some (nodeOf item, rest)) :
    items fuel (newLine depth ++ (writeAt depth item ++ (writeItems depth more ++
      (newLine outer ++ ']' :: rest)))) = some (nodeOf item :: nodesOf more, rest) := by
  obtain ⟨fuel, rfl⟩ : ∃ k, fuel = k + 1 := ⟨fuel - 1, by omega⟩
  obtain ⟨c, text, heq, hstart, hclose⟩ := exists_writeAt depth item
  have hskip (after : List Char) :
      skip (newLine depth ++ (writeAt depth item ++ after)) = some (c :: (text ++ after)) := by
    rw [heq]
    exact skip_newLine depth c (text ++ after) hstart
  match more with
  | [] =>
    have hvalue := hitem fuel (newLine outer ++ ']' :: rest) (by omega) (endsNumber_newLine _ _)
    rw [heq] at hvalue
    exact items_last (hskip _) hclose hvalue (skip_newLine outer ']' rest (by decide))
  | next :: later =>
    simp only [writeItems, List.length_append, List.length_cons] at hfuel
    have hvalue := hitem fuel (writeItems depth (next :: later) ++ (newLine outer ++ ']' :: rest))
      (by omega) (by rw [writeItems]; exact endsNumber_comma _)
    have hmore := items_written depth outer next later fuel rest (by omega)
      (value_writeAt depth next)
    rw [heq] at hvalue
    refine items_more (hskip _) hclose hvalue ?_ hmore
    simp only [writeItems, List.cons_append, List.append_assoc]
    exact skip_start ',' _ (by decide)

/-- The members of a record, of which the first content is known to be read. -/
theorem members_written (depth outer : Nat) (name : String) (content : Value)
    (more : List (String × Value)) (fuel : Nat) (rest : List Char)
    (hfuel : (writeAt depth content).length + (writeMembers depth more).length + 1 < fuel)
    (hcontent : ∀ fuel rest, (writeAt depth content).length < fuel → EndsNumber rest →
      value fuel (writeAt depth content ++ rest) = some (nodeOf content, rest)) :
    members fuel (newLine depth ++ (string name ++ ':' :: ' ' :: (writeAt depth content ++
      (writeMembers depth more ++ (newLine outer ++ '\x7d' :: rest))))) =
        some ((some name, nodeOf content) :: membersOf more, rest) := by
  obtain ⟨fuel, rfl⟩ : ∃ k, fuel = k + 1 := ⟨fuel - 1, by omega⟩
  obtain ⟨c, text, heq, hstart, -⟩ := exists_writeAt depth content
  have hskip (after : List Char) :
      skip (newLine depth ++ (string name ++ after)) = some (string name ++ after) := by
    rw [string]
    exact skip_newLine depth '"' _ (by decide)
  have hread (after : List Char) (hafter : EndsNumber after) :
      (skip (' ' :: (writeAt depth content ++ after))).bind (value fuel) =
        some (nodeOf content, after) := by
    have hvalue := hcontent fuel after (by omega) hafter
    rw [heq, List.cons_append] at hvalue ⊢
    rw [skip_blank c _ hstart]
    exact hvalue
  match more with
  | [] =>
    exact members_last (hskip _) (hread _ (endsNumber_newLine _ _))
      (skip_newLine outer '\x7d' rest (by decide))
  | (next, value) :: later =>
    simp only [writeMembers, List.length_append, List.length_cons] at hfuel
    have hmore := members_written depth outer next value later fuel rest (by omega)
      (value_writeAt depth value)
    refine members_more (hskip _) (hread _ ?_) ?_ hmore
    · rw [writeMembers]
      exact endsNumber_comma _
    · simp only [writeMembers, List.cons_append, List.append_assoc, List.nil_append]
      exact skip_start ',' _ (by decide)

end

/-- A written text is the tree of its value. -/
theorem parse?_write (v : Value) : parse? (write v) = some (nodeOf v) := by
  obtain ⟨c, text, heq, hstart, -⟩ := exists_writeAt 0 v
  have hvalue := value_writeAt 0 v ((writeAt 0 v).length + 1) [] (by omega) endsNumber_nil
  rw [List.append_nil] at hvalue
  have hskip : skip (writeAt 0 v) = some (writeAt 0 v) := by
    rw [heq]
    exact skip_start c text hstart
  have hend : skip [] = some [] := rfl
  simp [parse?, write, hskip, hvalue, hend]

end Values

end BenchCharts.Json
