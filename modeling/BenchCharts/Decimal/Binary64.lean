/-!
A double as an exact number: a sign, a whole mantissa and a power of two. Texts of doubles are
computed from this form alone, so that every digit is a matter of whole-number arithmetic.
-/
namespace BenchCharts.Decimal

inductive Binary64
  | nan
  | infinite (negative : Bool)
  | finite (negative : Bool) (mantissa : Nat) (exponent : Int)
  deriving DecidableEq, Repr

namespace Binary64

/-- The value of a bit pattern: one sign bit, eleven exponent bits and 52 fraction bits. -/
def ofBits (bits : Nat) : Binary64 :=
  let negative := decide (1 <<< 63 ≤ bits)
  let field : Nat := (bits >>> 52) % 2048
  let fraction : Nat := bits % (1 <<< 52)
  if field = 2047 then if fraction = 0 then infinite negative else nan
  else if field = 0 then finite negative fraction (-1074)
  else finite negative ((1 <<< 52) + fraction) ((field : Int) - 1075)

def ofFloat (x : Float) : Binary64 := ofBits x.toBits.toNat

/-- The value is a fraction `numerator / denominator` of whole numbers. -/
def numerator (mantissa : Nat) (exponent : Int) : Nat := mantissa <<< exponent.toNat

def denominator (exponent : Int) : Nat := 1 <<< (-exponent).toNat

theorem denominator_pos (exponent : Int) : 0 < denominator exponent := by
  unfold denominator
  exact Nat.pos_of_ne_zero (by simp)

/-- No finite double has more than 53 mantissa bits. -/
theorem mantissa_lt_of_ofBits (bits : Nat) (negative : Bool) (m : Nat) (q : Int)
    (h : ofBits bits = finite negative m q) : m < 1 <<< 53 := by
  have hfraction : bits % (1 <<< 52) < 1 <<< 52 := Nat.mod_lt bits (by decide)
  simp only [ofBits] at h
  split at h
  · split at h <;> simp at h
  · split at h
    · simp only [finite.injEq] at h
      omega
    · simp only [finite.injEq] at h
      omega

end Binary64

end BenchCharts.Decimal
