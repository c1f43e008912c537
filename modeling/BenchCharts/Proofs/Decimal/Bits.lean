import BenchCharts.Decimal.Binary64
import BenchCharts.Proofs.Decimal.Nearest

/-!
The fields of a double. Its bits are the sign, the exponent and the mantissa one behind the other,
so the number that a double is decides which double it is.
-/
namespace BenchCharts.Decimal

open Float.Model (Format UnpackedFloat)
open Float.Model.UnpackedFloat

def signOf (negative : Bool) : Sign := if negative then .negative else .positive

theorem toNat_packComponents (sign : Sign) (exponent : BitVec 11) (mantissa : BitVec 52) :
    (packComponents Format.binary64 sign exponent mantissa).toNat =
      2 ^ 63 * sign.toBitVec.toNat + 2 ^ 52 * exponent.toNat + mantissa.toNat := by
  have hexponent := exponent.isLt
  have hmantissa := mantissa.isLt
  change (sign.toBitVec ++ exponent ++ mantissa).toNat = _
  rw [BitVec.toNat_append, BitVec.toNat_append, ← Nat.shiftLeft_add_eq_or_of_lt hmantissa,
    ← Nat.shiftLeft_add_eq_or_of_lt hexponent]
  simp only [Nat.shiftLeft_eq]
  omega

theorem eq_ofModel_pack {x : Float} {u : UnpackedFloat}
    (h : (UnpackedFloat.pack Format.binary64 u).toNat = x.toBits.toNat) :
    x = .ofModel (.pack u) := by
  obtain ⟨⟨bits, hvalid⟩⟩ := x
  have hbits : bits = UInt64.ofBitVec (UnpackedFloat.pack Format.binary64 u) :=
    UInt64.toNat_inj.mp h.symm
  subst hbits
  rfl

theorem pack_double {m : Nat} {e : Int} (h : IsDouble m e) (sign : Sign) :
    UnpackedFloat.pack Format.binary64 (.finite sign m e h.pos) =
      packComponents Format.binary64 sign
        (if m < 2 ^ 52 then 0#11 else BitVec.ofNat 11 (e + 1075).toNat) (BitVec.ofNat 52 m) := by
  have hlog : m.log2 < 53 := (Nat.log2_lt h.pos.ne').mpr h.lt
  have hleast := h.least
  have hgreatest := h.greatest
  have hsmall : ¬ 2 ^ Format.binary64.exponentBits ≤ (e + 1075).toNat + 1 := by
    change ¬ 2048 ≤ (e + 1075).toNat + 1
    omega
  have hfield : (e + Format.binary64.exponentBias +
      Format.binary64.mantissaBitsWithoutImplicit).toNat = (e + 1075).toNat := by
    change (e + 1023 + 52).toNat = _
    omega
  have hbits : Format.binary64.mantissaBits = 53 := rfl
  simp only [UnpackedFloat.pack, hfield, if_neg hsmall, hbits]
  by_cases hm : m < 2 ^ 52
  · have hshort : m.log2 < 52 := (Nat.log2_lt h.pos.ne').mpr hm
    rw [if_neg (by omega), if_pos hm]
  · have hfull : 52 ≤ m.log2 := (Nat.le_log2 h.pos.ne').mpr (by omega)
    rw [if_pos (by omega), if_neg hm]

/-- A double that is a number shows the three fields of its word. -/
theorem fields_of_ofFloat {x : Float} {negative : Bool} {m : Nat} {e : Int}
    (h : Binary64.ofFloat x = .finite negative m e) :
    ∃ field fraction, field < 2047 ∧ fraction < 2 ^ 52 ∧
      2 ^ 63 * (signOf negative).toBitVec.toNat + 2 ^ 52 * field + fraction = x.toBits.toNat ∧
      (field = 0 ∧ m = fraction ∧ e = -1074 ∨
        field ≠ 0 ∧ m = 2 ^ 52 + fraction ∧ e = field - 1075) := by
  have hword : x.toBits.toNat < 2 ^ 64 := x.toBits.toNat_lt
  have hsplit : x.toBits.toNat >>> 52 = x.toBits.toNat / 4503599627370496 :=
    Nat.shiftRight_eq_div_pow _ _
  have hfraction : x.toBits.toNat % (1 <<< 52) = x.toBits.toNat % 4503599627370496 := rfl
  have hsign (bits : Nat) : (signOf (decide (1 <<< 63 ≤ bits))).toBitVec.toNat =
      if 9223372036854775808 ≤ bits then 1 else 0 := by
    change (signOf (decide (9223372036854775808 ≤ bits))).toBitVec.toNat = _
    by_cases hle : 9223372036854775808 ≤ bits
    · rw [decide_eq_true hle, if_pos hle]
      rfl
    · rw [decide_eq_false hle, if_neg hle]
      rfl
  simp only [Binary64.ofFloat, Binary64.ofBits, hsplit, hfraction] at h
  generalize x.toBits.toNat = bits at *
  split at h
  · split at h <;> simp at h
  · refine ⟨bits / 4503599627370496 % 2048, bits % 4503599627370496, by omega, by omega, ?_⟩
    split at h
    · next hzero =>
      simp only [Binary64.finite.injEq] at h
      obtain ⟨rfl, hm, he⟩ := h
      rw [hsign]
      refine ⟨by split <;> omega, Or.inl ⟨hzero, hm.symm, he.symm⟩⟩
    · next hzero =>
      simp only [Binary64.finite.injEq] at h
      obtain ⟨rfl, hm, he⟩ := h
      rw [hsign]
      refine ⟨by split <;> omega, Or.inr ⟨hzero, hm.symm, he.symm⟩⟩

theorem isDouble_of_ofFloat {x : Float} {negative : Bool} {m : Nat} {e : Int}
    (h : Binary64.ofFloat x = .finite negative m e) (hm : m ≠ 0) : IsDouble m e := by
  obtain ⟨field, fraction, hfield, hfraction, -, hcases⟩ := fields_of_ofFloat h
  exact ⟨by omega, by omega, by omega, by omega, by omega⟩

/-- The double is the one that has its sign, mantissa and exponent. -/
theorem eq_of_ofFloat {x : Float} {negative : Bool} {m : Nat} {e : Int}
    (h : Binary64.ofFloat x = .finite negative m e) (hm : m ≠ 0) :
    x = .ofModel (.pack (.finite (signOf negative) m e (isDouble_of_ofFloat h hm).pos)) := by
  obtain ⟨field, fraction, hfield, hfraction, hword, hcases⟩ := fields_of_ofFloat h
  apply eq_ofModel_pack
  rw [pack_double (isDouble_of_ofFloat h hm), toNat_packComponents]
  have hmantissa : (BitVec.ofNat 52 m).toNat = m % 2 ^ 52 := BitVec.toNat_ofNat m 52
  have hexponent : (BitVec.ofNat 11 (e + 1075).toNat).toNat = (e + 1075).toNat % 2 ^ 11 :=
    BitVec.toNat_ofNat _ 11
  have hzero : (0#11).toNat = 0 := rfl
  rw [hmantissa]
  rcases hcases with ⟨hsmall, hm, he⟩ | ⟨hnormal, hm, he⟩
  · rw [if_pos (by omega), hzero]
    omega
  · rw [if_neg (by omega), hexponent]
    omega

theorem eq_zero_of_ofFloat {x : Float} {negative : Bool} {e : Int}
    (h : Binary64.ofFloat x = .finite negative 0 e) :
    x = .ofModel (.pack (.zero (signOf negative))) := by
  obtain ⟨field, fraction, hfield, hfraction, hword, hcases⟩ := fields_of_ofFloat h
  have hexponent : (0#11).toNat = 0 := rfl
  have hmantissa : (0#52).toNat = 0 := rfl
  apply eq_ofModel_pack
  change (packComponents Format.binary64 (signOf negative) 0#11 0#52).toNat = _
  rw [toNat_packComponents, hexponent, hmantissa]
  omega

/-- A double whose exponent field is full is infinite or no number. -/
theorem exists_ofFloat {x : Float} (h : x.isFinite = true) :
    ∃ negative m e, Binary64.ofFloat x = .finite negative m e := by
  simp only [Binary64.ofFloat, Binary64.ofBits]
  split
  · next hfield =>
    have hexponent : @unpackExponent Format.binary64 x.toBits.toBitVec = -1#11 := by
      apply BitVec.eq_of_toNat_eq
      change (BitVec.extractLsb 62 52 x.toBits.toBitVec).toNat = 2047
      rw [BitVec.extractLsb_toNat]
      exact hfield
    change (UnpackedFloat.unpack Format.binary64 x.toBits.toBitVec).isFinite = true at h
    simp only [UnpackedFloat.unpack, hexponent, if_true] at h
    split at h <;> simp [UnpackedFloat.isFinite] at h
  · split
    · exact ⟨_, _, _, rfl⟩
    · exact ⟨_, _, _, rfl⟩

theorem unpack_pack_double {m : Nat} {e : Int} (h : IsDouble m e) (sign : Sign) :
    (Float.Model.pack (.finite sign m e h.pos)).unpack = .finite sign m e h.pos := by
  have hleast := h.least
  by_cases hm : m < 2 ^ 52
  · have hexponent : e = -1074 := by
      by_contra hne
      have hfull := h.leading (by omega)
      omega
    have hmantissa : (BitVec.ofNat 52 m).toNat = m := by
      rw [BitVec.toNat_ofNat]
      exact Nat.mod_eq_of_lt hm
    have hpos := h.pos
    have hne : BitVec.ofNat 52 m ≠ 0#52 := by
      intro heq
      rw [heq] at hmantissa
      exact hpos.ne hmantissa
    subst hexponent
    change UnpackedFloat.unpack Format.binary64
      (UnpackedFloat.pack Format.binary64 (.finite sign m (-1074) h.pos)) = _
    rw [pack_double h, if_pos hm]
    simp only [UnpackedFloat.unpack, unpackMantissa_packComponents, unpackExponent_packComponents,
      unpackSign_packComponents, Sign.ofBitVec_toBitVec, dif_neg hne, hmantissa]
    rfl
  · exact unpack_pack ⟨by omega, h.lt⟩ h.least h.greatest sign

/-- A sign is put before a double without touching it. -/
theorem neg_double {m : Nat} {e : Int} (h : IsDouble m e) :
    -Float.ofModel (.pack (.finite .positive m e h.pos)) =
      .ofModel (.pack (.finite .negative m e h.pos)) := by
  change Float.ofModel (.pack (Float.Model.pack (.finite .positive m e h.pos)).unpack.neg) = _
  rw [unpack_pack_double h .positive]
  rfl

end BenchCharts.Decimal
