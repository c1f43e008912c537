import BenchCharts.Proofs.Format.Rendering
import BenchCharts.Proofs.Yaml.Parsing
import BenchCharts.Yaml.Reading

/-!
The nodes of written values are read as those values. Whole numbers and doubles are plain scalars
that no word takes away, and a text is never written so that it stands for nothing.
-/
namespace BenchCharts.Yaml

open Decimal (ne_word_of_startsNumber startsNumber startsNumber_magnitude startsNumber_of_isDigit)
open Format (Decoded Rendering Value)

section
variable {cs : List Char} (h : startsNumber cs)
include h

theorem not_contains_of_startsNumber (words : List String)
    (hwords : ∀ word ∈ words, startsNumber word.toList = false) :
    words.contains (String.ofList cs) = false := by
  rw [← Bool.not_eq_true, List.contains_iff_mem]
  exact fun hmem => ne_word_of_startsNumber h _ (hwords _ hmem) rfl

theorem head_of_startsNumber : cs.head? ≠ some '+' := by
  rintro hhead
  cases cs with
  | nil => simp at hhead
  | cons c rest =>
    simp only [List.head?_cons, Option.some.injEq] at hhead
    subst hhead
    simp [startsNumber] at h

theorem withoutPlus_of_startsNumber : withoutPlus cs = cs := by
  have hhead := head_of_startsNumber h
  unfold withoutPlus
  split <;> simp_all

theorem real?_of_startsNumber {x : Float} (hread : Decimal.readReal cs = .ok x)
    (hfinite : x.isFinite = true) : real? cs = some x := by
  have hplus : (cs.head? = some '+' && startsWithSign cs) = false := by
    simp [head_of_startsNumber h]
  simp only [real?, withoutPlus_of_startsNumber h, hplus,
    not_contains_of_startsNumber h [".inf", ".Inf", ".INF"] (by decide),
    not_contains_of_startsNumber h ["-.inf", "-.Inf", "-.INF"] (by decide),
    not_contains_of_startsNumber h [".nan", ".NaN", ".NAN"] (by decide), hread]
  simp [Except.toOption, hfinite]

end

theorem natural?_toDigits (n bound : Nat) (h : n ≤ bound) :
    natural? bound (Nat.toDigits 10 n) = some n := by
  have hwhole := Decimal.isWhole_toDigits n
  have hread := Decimal.readNatural_toDigits n bound h
  obtain ⟨c, rest, heq, hc⟩ := hwhole.exists_cons
  rw [heq] at hwhole hread ⊢
  have hsign : c ≠ '+' ∧ c ≠ '-' := by
    constructor <;>
    · rintro rfl
      exact absurd hc (by decide)
  -- A zero in front is the whole numeral.
  have hzero : c = '0' → rest = [] := fun hc => by simpa [hc] using hwhole.eq_zero (by simp [hc])
  have hbased : based? (c :: rest) = none := by
    unfold based?
    split <;> simp_all
  have hneedless : hasNeedlessZero (c :: rest) = false := by
    have hsplit : Decimal.splitSign (c :: rest) = (false, c :: rest) := by
      unfold Decimal.splitSign
      split <;> simp_all
    rw [hasNeedlessZero, hsplit]
    split <;> simp_all
  have hstart : startsWithSign (c :: rest) = false := by simp [startsWithSign, hsign]
  simp only [natural?, withoutPlus_of_startsNumber (startsNumber_of_isDigit c rest hc), hbased,
    hneedless, digits?, hstart, hread]
  rfl

/-- Texts that could be taken for nothing are quoted. -/
theorem not_isNullWord_of_plain (s : String) (h : styleOf false s = .plain) :
    (s.isEmpty || isNullWord s) = false := by
  have hdoubtful : isDoubtful s = false := by
    unfold styleOf at h
    dsimp only at h
    split at h
    · split at h <;> simp at h
    · split at h
      · simp_all
      · split at h <;> simp at h
  rw [← Bool.not_eq_true]
  intro hnull
  have hmem : s ∈ ["", "null", "Null", "NULL", "~"] := by
    simpa [isNullWord, String.isEmpty_iff] using hnull
  have hall : ∀ word ∈ ["", "null", "Null", "NULL", "~"], isDoubtful word := by decide
  rw [hall s hmem] at hdoubtful
  contradiction

section
variable (d : Document)

@[simp] theorem content_scalar (tag : Option String) (style : ScalarStyle) (text : String) :
    (Cell.mk d (.scalar tag style text)).content = .scalar tag style text := rfl

theorem natural_digits {n bound : Nat} (h : n ≤ bound) (hbound : bound ≤ Decimal.maxWord) :
    (Cell.mk d (.scalar none .plain (String.ofList (Nat.toDigits 10 n)))).natural bound =
      .ok n := by
  have hread := natural?_toDigits n Decimal.maxWord (Nat.le_trans h hbound)
  simp [Cell.natural, isNumeral, hread, Option.filter, h]

theorem real_written {x : Float} (hfinite : x.isFinite = true) (h : numberForm.Keeps x) :
    (Cell.mk d (.scalar none .plain (numberForm.write x))).real = .ok x := by
  obtain ⟨sign, magnitude, hsign, hmagnitude, htext⟩ := h.exists_magnitude (by decide)
  have hstart : startsNumber (numberForm.write x).toList := by
    rw [htext]
    exact startsNumber_magnitude hsign hmagnitude
  simp [Cell.real, isNumeral, real?_of_startsNumber hstart h hfinite]

theorem isNull_text (s : String) :
    (Cell.mk d (.scalar none (styleOf false s) s)).isNull = .ok false := by
  have hplain := not_isNullWord_of_plain s
  cases hstyle : styleOf false s <;> simp_all [Cell.isNull]

theorem nodesOf_eq_map (items : List Value) : nodesOf items = items.map nodeOf := by
  induction items with
  | nil => rfl
  | cons item rest ih => rw [nodesOf, ih, List.map_cons]

theorem membersOf_eq_map (members : List (String × Value)) :
    membersOf members =
      members.map fun (name, v) => (.scalar none (nameStyle name) name, nodeOf v) := by
  induction members with
  | nil => rfl
  | cons member rest ih =>
    obtain ⟨name, v⟩ := member
    rw [membersOf, ih, List.map_cons]

/-- Values in a document. -/
def rendering : Rendering Cell where
  node v := ⟨d, nodeOf v⟩
  name s := ⟨d, .scalar none (nameStyle s) s⟩
  form := numberForm
  largest := Decimal.maxWord
  text_name _ := rfl
  text_node _ := by rw [nodeOf]; rfl
  choice_node _ := by rw [nodeOf]; rfl
  natural_node h hbound _ := by
    rw [nodeOf]
    exact natural_digits d h hbound.le_maxWord
  real_node hfinite h := by
    rw [nodeOf]
    exact real_written d hfinite h
  isNull_null := by rw [nodeOf]; rfl
  isNull_text s := by
    rw [nodeOf]
    exact isNull_text d s
  isNull_list _ := by rw [nodeOf]; rfl
  items_node items := by
    rw [nodeOf, nodesOf_eq_map]
    simp [Format.Source.items, Cell.items, Cell.content, Document.resolve, Cell.sibling]
  members_node members := by
    rw [nodeOf, membersOf_eq_map]
    simp [Format.Source.members, Cell.members, Cell.content, Document.resolve, Cell.sibling]

end

/-- A written text is decoded as the node of its value is read. -/
theorem decode_write {α : Type} {read : Cell → Decoded α} {v : Value} {a : α}
    (h : ∀ d, (rendering d).Reads read v a) : decode read (write v) = .ok a := by
  have hread : read ⟨⟨nodeOf v, [], true⟩, nodeOf v⟩ = .ok a := h _
  simp only [decode, parse_write, hread]
  rfl

/-- What is refused as a node is refused as a text. -/
theorem decode_write_refused {α : Type} {read : Cell → Decoded α} {v : Value}
    (h : ∀ d, ∃ e, read ((rendering d).node v) = .error e) :
    ∃ e, decode read (write v) = .error e := by
  obtain ⟨e, he⟩ : ∃ e, read ⟨⟨nodeOf v, [], true⟩, nodeOf v⟩ = .error e := h _
  simp only [decode, parse_write, he]
  exact ⟨e, rfl⟩

end BenchCharts.Yaml
