import BenchCharts.Config.Parts
import BenchCharts.Json.Reading
import BenchCharts.Proofs.Decimal.Digits
import BenchCharts.Proofs.Traversal
import BenchCharts.Style.Color

/-!
Which texts are colors. Besides the names there are texts of a number sign with six hexadecimal
digits, two for each channel. What follows the number sign is read as one number, so that a plus
sign in the place of the first digit is taken for a zero. All other texts are refused. Colors that
are written read back.
-/
namespace BenchCharts.Style.Color

open Decimal (digitValue? maxHalfWord readDigits readNatural)
open Format (Source)

/-- The value of a hexadecimal digit in either case. -/
def IsHexDigit (c : Char) (d : Nat) : Prop :=
  "0123456789abcdef".toList[d]? = some c ∨ "0123456789ABCDEF".toList[d]? = some c

instance (c : Char) (d : Nat) : Decidable (IsHexDigit c d) :=
  inferInstanceAs (Decidable (_ ∨ _))

/-- The value of two digits. -/
def IsPair (high low : Char) (n : Nat) : Prop :=
  ∃ h l, IsHexDigit high h ∧ IsHexDigit low l ∧ n = 16 * h + l

/-- Two digits for each channel. -/
def HasDigits (cs : List Char) (c : Color) : Prop :=
  ∃ r₁ r₂ g₁ g₂ b₁ b₂, cs = [r₁, r₂, g₁, g₂, b₁, b₂] ∧
    IsPair r₁ r₂ c.red ∧ IsPair g₁ g₂ c.green ∧ IsPair b₁ b₂ c.blue

theorem forall_ascii {P : Char → Prop} (h : ∀ n < 128, P (Char.ofNat n)) {c : Char}
    (hc : c.toNat < 128) : P c := by
  have hp := h c.toNat hc
  rwa [Char.ofNat_toNat] at hp

theorem toNat_lt_of_digitValue? {base d : Nat} {c : Char} (h : digitValue? base c = some d) :
    c.toNat < 128 := by
  have hle : ∀ last : Char, c ≤ last → c.toNat ≤ last.toNat :=
    fun last hc => UInt32.le_iff_toNat_le.mp (Char.le_def.mp hc)
  have hlast : '9'.toNat < 128 ∧ 'f'.toNat < 128 ∧ 'F'.toNat < 128 := by decide
  obtain ⟨hvalue, -⟩ := Option.filter_eq_some_iff.mp h
  split_ifs at hvalue with hdigit hlower hupper
  · exact (hle _ hdigit.2).trans_lt hlast.1
  · exact (hle _ hlower.2).trans_lt hlast.2.1
  · exact (hle _ hupper.2).trans_lt hlast.2.2

theorem IsHexDigit.lt {c : Char} {d : Nat} (h : IsHexDigit c d) : d < 16 := by
  rcases h with h | h <;> exact (List.getElem?_eq_some_iff.mp h).1

theorem digitValue?_sixteen_iff (c : Char) (d : Nat) :
    digitValue? 16 c = some d ↔ IsHexDigit c d := by
  constructor
  · intro h
    have hall : ∀ n < 128, ∀ d ∈ digitValue? 16 (Char.ofNat n), IsHexDigit (Char.ofNat n) d := by
      decide
    exact forall_ascii (P := fun c => ∀ d ∈ digitValue? 16 c, IsHexDigit c d) hall
      (toNat_lt_of_digitValue? h) d h
  · intro h
    have hall : ∀ d < 16, "0123456789abcdef".toList[d]?.bind (digitValue? 16) = some d ∧
        "0123456789ABCDEF".toList[d]?.bind (digitValue? 16) = some d := by
      decide
    obtain ⟨hlower, hupper⟩ := hall d h.lt
    rcases h with h | h
    · rwa [h, Option.bind_some] at hlower
    · rwa [h, Option.bind_some] at hupper

theorem IsHexDigit.utf8Size_eq {c : Char} {d : Nat} (h : IsHexDigit c d) : c.utf8Size = 1 :=
  forall_ascii (P := fun c => c.utf8Size = 1) (by decide)
    (toNat_lt_of_digitValue? ((digitValue?_sixteen_iff c d).mpr h))

theorem readDigits_sixteen_iff (cs : List Char) (n : Nat) :
    readDigits 16 maxHalfWord 0 cs = .ok n ↔ ∃ values, List.Forall₂ IsHexDigit cs values ∧
      values.foldl (fun total d => total * 16 + d) 0 = n ∧ n ≤ maxHalfWord := by
  rw [Decimal.readDigits_eq_ok_iff_values (by decide) maxHalfWord n (Nat.zero_le _)]
  simp only [digitValue?_sixteen_iff]

theorem utf8ByteSize_ofList (cs : List Char) (h : ∀ c ∈ cs, c.utf8Size = 1) :
    (String.ofList cs).utf8ByteSize = cs.length := by
  induction cs with
  | nil => rfl
  | cons c cs ih =>
    rw [List.forall_mem_cons] at h
    rw [String.ofList_cons, String.utf8ByteSize_append, String.utf8ByteSize_singleton, h.1, ih h.2,
      List.length_cons, Nat.add_comm]

/-- Digits take one byte each. -/
theorem utf8ByteSize_of_readDigits {cs : List Char} {n : Nat}
    (h : readDigits 16 maxHalfWord 0 cs = .ok n) :
    (String.ofList cs).utf8ByteSize = cs.length := by
  obtain ⟨values, hvalues, -⟩ := (readDigits_sixteen_iff cs n).mp h
  apply utf8ByteSize_ofList
  intro c hc
  obtain ⟨d, -, hd⟩ := exists_of_forall₂ hvalues hc
  exact hd.utf8Size_eq

/-- The channels that six digits make as one number. -/
theorem ofHex_values {a b c d e f : Nat} (ha : a < 16) (hb : b < 16) (hc : c < 16) (hd : d < 16)
    (he : e < 16) (hf : f < 16) :
    [a, b, c, d, e, f].foldl (fun total d => total * 16 + d) 0 ≤ maxHalfWord ∧
      ofHex ([a, b, c, d, e, f].foldl (fun total d => total * 16 + d) 0) =
        ⟨16 * a + b, 16 * c + d, 16 * e + f⟩ := by
  have hbound : maxHalfWord = 4294967295 := by decide
  simp only [List.foldl_cons, List.foldl_nil, ofHex, mk.injEq, hbound]
  omega

/-- Two digits for each channel are six digits that are read as one number. -/
theorem hasDigits_iff (cs : List Char) (c : Color) :
    HasDigits cs c ↔
      cs.length = 6 ∧ ∃ n, readDigits 16 maxHalfWord 0 cs = .ok n ∧ ofHex n = c := by
  constructor
  · rintro ⟨r₁, r₂, g₁, g₂, b₁, b₂, rfl, ⟨r, r', hr, hr', hred⟩, ⟨g, g', hg, hg', hgreen⟩,
      ⟨b, b', hb, hb', hblue⟩⟩
    obtain ⟨hbound, hchannels⟩ := ofHex_values hr.lt hr'.lt hg.lt hg'.lt hb.lt hb'.lt
    refine ⟨rfl, _, (readDigits_sixteen_iff _ _).mpr ⟨[r, r', g, g', b, b'], ?_, rfl, hbound⟩, ?_⟩
    · exact .cons hr (.cons hr' (.cons hg (.cons hg' (.cons hb (.cons hb' .nil)))))
    · rw [hchannels, ← hred, ← hgreen, ← hblue]
  · rintro ⟨hlength, n, hread, rfl⟩
    obtain ⟨values, hvalues, rfl, -⟩ := (readDigits_sixteen_iff cs n).mp hread
    match cs, hlength, values, hvalues with
    | [r₁, r₂, g₁, g₂, b₁, b₂], _, [r, r', g, g', b, b'],
        .cons hr (.cons hr' (.cons hg (.cons hg' (.cons hb (.cons hb' .nil))))) =>
      rw [(ofHex_values hr.lt hr'.lt hg.lt hg'.lt hb.lt hb'.lt).2]
      exact ⟨r₁, r₂, g₁, g₂, b₁, b₂, rfl, ⟨r, r', hr, hr', rfl⟩, ⟨g, g', hg, hg', rfl⟩,
        ⟨b, b', hb, hb', rfl⟩⟩

/-- A zero in front changes no number. -/
theorem readDigits_zero_cons (cs : List Char) :
    readDigits 16 maxHalfWord 0 ('0' :: cs) = readDigits 16 maxHalfWord 0 cs := by
  have hzero : digitValue? 16 '0' = some 0 := by decide
  simp [readDigits, hzero]

theorem ofNumberSign?_eq_some_iff_readNatural (s : String) (c : Color) :
    ofNumberSign? s = some c ↔ ∃ cs, s.toList = '#' :: cs ∧
      (String.ofList cs).utf8ByteSize = 6 ∧
      ∃ n, readNatural 16 maxHalfWord cs = .ok n ∧ ofHex n = c := by
  unfold ofNumberSign?
  split
  · next digits heq =>
    simp only [heq, List.cons.injEq, true_and, exists_eq_left']
    cases readNatural 16 maxHalfWord digits <;> simp
  · next hother =>
    simp only [reduceCtorEq, false_iff]
    rintro ⟨cs, heq, -⟩
    exact hother cs heq

theorem ofNumberSign?_eq_some_iff (s : String) (c : Color) :
    ofNumberSign? s = some c ↔ ∃ cs, s.toList = '#' :: cs ∧
      (HasDigits cs c ∨ ∃ rest, cs = '+' :: rest ∧ HasDigits ('0' :: rest) c) := by
  have hsigned : ∀ {digits n}, readDigits 16 maxHalfWord 0 digits = .ok n →
      (String.ofList ('+' :: digits)).utf8ByteSize = ('0' :: digits).length := by
    intro digits n hdigits
    rw [String.ofList_cons, String.utf8ByteSize_append, utf8ByteSize_of_readDigits hdigits,
      String.utf8ByteSize_singleton, List.length_cons, Nat.add_comm]
    rfl
  rw [ofNumberSign?_eq_some_iff_readNatural]
  refine exists_congr fun cs => and_congr_right fun _ => ?_
  simp only [hasDigits_iff, Decimal.readNatural_eq_ok_iff_readDigits]
  constructor
  · rintro ⟨hsize, n, ⟨digits, rfl | rfl, -, hdigits⟩, hn⟩
    · rw [utf8ByteSize_of_readDigits hdigits] at hsize
      exact .inl ⟨hsize, n, hdigits, hn⟩
    · rw [hsigned hdigits] at hsize
      exact .inr ⟨digits, rfl, hsize, n, (readDigits_zero_cons digits).trans hdigits, hn⟩
  · rintro (⟨hlength, n, hdigits, hn⟩ | ⟨rest, rfl, hlength, n, hdigits, hn⟩)
    · have hsize := (utf8ByteSize_of_readDigits hdigits).trans hlength
      refine ⟨hsize, n, ⟨cs, .inl rfl, ?_, hdigits⟩, hn⟩
      rintro rfl
      contradiction
    · rw [readDigits_zero_cons] at hdigits
      refine ⟨(hsigned hdigits).trans hlength, n, ⟨rest, .inr rfl, ?_, hdigits⟩, hn⟩
      rintro rfl
      contradiction

theorem ofName?_eq_some_iff (s : String) (c : Color) : ofName? s = some c ↔ (s, c) ∈ named := by
  have hall : ∀ entry ∈ named, ofName? entry.1 = some entry.2 := by decide
  constructor
  · intro h
    obtain ⟨before, after, heq, -⟩ := List.lookup_eq_some_iff.mp h
    simp [heq]
  · exact fun hmem => hall (s, c) hmem

/-- No name starts with a number sign. -/
theorem ofName?_eq_none {s : String} {cs : List Char} (h : s.toList = '#' :: cs) :
    ofName? s = none := by
  have hall : ∀ entry ∈ named, entry.1.toList.head? ≠ some '#' := by decide
  refine Option.eq_none_iff_forall_ne_some.mpr fun c hname => ?_
  exact hall (s, c) ((ofName?_eq_some_iff s c).mp hname) (by rw [h, List.head?_cons])

theorem parse?_eq_some_iff (s : String) (c : Color) :
    parse? s = some c ↔ (s, c) ∈ named ∨ ofNumberSign? s = some c := by
  rw [← ofName?_eq_some_iff, parse?]
  cases hname : ofName? s with
  | none => simp
  | some named =>
    have hsign : ofNumberSign? s ≠ some c := by
      intro hsign
      obtain ⟨cs, hcs, -⟩ := (ofNumberSign?_eq_some_iff s c).mp hsign
      rw [ofName?_eq_none hcs] at hname
      contradiction
    simp [hsign]

/-- Every channel is a byte. -/
def IsBytes (c : Color) : Prop := c.red < 256 ∧ c.green < 256 ∧ c.blue < 256

instance (c : Color) : Decidable c.IsBytes := inferInstanceAs (Decidable (_ ∧ _ ∧ _))

def digits (c : Color) : List Char := hexPair c.red ++ hexPair c.green ++ hexPair c.blue

theorem isPair_hexPair {n : Nat} (hn : n < 256) :
    IsPair (Nat.digitChar (n / 16 % 16)) (Nat.digitChar (n % 16)) n := by
  have hdigit : ∀ d < 16, IsHexDigit (Nat.digitChar d) d := by decide
  exact ⟨n / 16 % 16, n % 16, hdigit _ (Nat.mod_lt _ (by decide)),
    hdigit _ (Nat.mod_lt _ (by decide)), by omega⟩

theorem ofNumberSign?_digits (c : Color) (h : c.IsBytes) :
    ofNumberSign? (String.ofList ('#' :: c.digits)) = some c :=
  (ofNumberSign?_eq_some_iff _ c).mpr ⟨c.digits, String.toList_ofList, .inl
    ⟨_, _, _, _, _, _, rfl, isPair_hexPair h.1, isPair_hexPair h.2.1, isPair_hexPair h.2.2⟩⟩

theorem parse?_text (c : Color) (h : c.IsBytes) : parse? c.text = some c := by
  unfold text
  cases hname : c.name? with
  | some name =>
    obtain ⟨entry, hfind, rfl⟩ := Option.map_eq_some_iff.mp hname
    have hcolor : entry.2 = c := by simpa using List.find?_some hfind
    exact (parse?_eq_some_iff _ _).mpr (.inl (hcolor ▸ List.mem_of_find?_eq_some hfind))
  | none => exact (parse?_eq_some_iff _ _).mpr (.inr (ofNumberSign?_digits c h))

/-- The texts that are colors, and what becomes of all others wherever a document has a color. -/
theorem texts_accepted (s : String) :
    (∀ c, parse? s = some c ↔ (s, c) ∈ named ∨ ∃ cs, s.toList = '#' :: cs ∧
      (HasDigits cs c ∨ ∃ rest, cs = '+' :: rest ∧ HasDigits ('0' :: rest) c)) ∧
    ∀ {ν : Type} [Source ν] (node : ν), Source.text node = .ok s →
      (∀ c, parse? s = some c → Config.readColor node = .ok c) ∧
      (parse? s = none → Config.readColor node = .error (.refused (invalidMessage s))) := by
  refine ⟨?_, ?_⟩
  · intro c
    rw [parse?_eq_some_iff, ofNumberSign?_eq_some_iff]
  · intro ν _ node htext
    refine ⟨?_, ?_⟩
    · intro c hcolor
      simp only [Config.readColor, Format.readMeaning, htext, bind, Except.bind, hcolor]
      rfl
    · intro hnone
      simp only [Config.readColor, Format.readMeaning, htext, bind, Except.bind, hnone]

/-- Six bytes of which not all are digits, and six digits in both cases. -/
theorem texts_accepted_six_bytes :
    parse? "#aB0fF9" = some ⟨0xab, 0x0f, 0xf9⟩ ∧ parse? "#1234é" = none ∧
      Config.readColor (Json.Node.text (some "#1234é")) =
        .error (.refused (invalidMessage "#1234é")) := by
  have hdigits : HasDigits ['a', 'B', '0', 'f', 'F', '9'] ⟨0xab, 0x0f, 0xf9⟩ :=
    ⟨_, _, _, _, _, _, rfl, ⟨10, 11, by decide⟩, ⟨0, 15, by decide⟩, ⟨15, 9, by decide⟩⟩
  have hnone : parse? "#1234é" = none := by decide
  exact ⟨((texts_accepted _).1 _).mpr (.inr ⟨_, rfl, .inl hdigits⟩), hnone,
    ((texts_accepted _).2 (Json.Node.text (some "#1234é")) rfl).2 hnone⟩

/-- Five digits behind a plus sign are no name and not two digits for each channel, but a color. -/
theorem plus_sign_accepted :
    parse? "#+12345" = some ⟨0x01, 0x23, 0x45⟩ ∧ ∀ c, ("#+12345", c) ∉ named ∧
      ¬ ∃ cs, "#+12345".toList = '#' :: cs ∧ HasDigits cs c := by
  have htext : "#+12345".toList = '#' :: '+' :: "12345".toList := rfl
  refine ⟨by decide, fun c => ⟨?_, ?_⟩⟩
  · intro hmem
    have hname := (ofName?_eq_some_iff _ c).mpr hmem
    rw [ofName?_eq_none htext] at hname
    contradiction
  · rintro ⟨cs, hcs, r₁, r₂, g₁, g₂, b₁, b₂, rfl, ⟨d, -, hd, -⟩, -⟩
    obtain ⟨-, rfl, -⟩ : '#' = '#' ∧ '+' = r₁ ∧ _ := by simpa [htext] using hcs
    rw [← digitValue?_sixteen_iff, Decimal.digitValue?_plus] at hd
    contradiction

end BenchCharts.Style.Color
