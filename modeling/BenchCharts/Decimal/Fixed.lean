import BenchCharts.Decimal.Binary64

/-!
Decimals with a fixed number of places. The exact value is rounded to the nearest multiple of the
last place, an exact half to the even one, and the sign is kept even where only zeros remain.
-/
namespace BenchCharts.Decimal

/-- Nearest whole number to a fraction, the even one of two. -/
def roundHalfEven (numerator denominator : Nat) : Nat :=
  let floor := numerator / denominator
  let rest := numerator % denominator
  if denominator < 2 * rest ∨ (2 * rest = denominator ∧ floor % 2 = 1) then floor + 1 else floor

theorem roundHalfEven_within (n d : Nat) (hd : 0 < d) :
    2 * n ≤ (2 * roundHalfEven n d + 1) * d ∧ 2 * roundHalfEven n d * d ≤ 2 * n + d := by
  have hdiv : d * (n / d) + n % d = n := Nat.div_add_mod n d
  have hlt : n % d < d := Nat.mod_lt n hd
  have hcomm : n / d * d = d * (n / d) := Nat.mul_comm _ _
  simp only [roundHalfEven]
  split
  · constructor <;> grind
  · constructor <;> grind

/-- Digits of `scaled / 10 ^ places`, with at least one digit before the point. -/
def placed (places scaled : Nat) : List Char :=
  let digits := Nat.toDigits 10 scaled
  let digits := List.replicate (places + 1 - digits.length) '0' ++ digits
  if places = 0 then digits
  else digits.take (digits.length - places) ++ '.' :: digits.drop (digits.length - places)

def fixed (places : Nat) : Binary64 → List Char
  | .nan => ['N', 'a', 'N']
  | .infinite negative => if negative then ['-', 'i', 'n', 'f'] else ['i', 'n', 'f']
  | .finite negative mantissa exponent =>
      let scaled := roundHalfEven (Binary64.numerator mantissa exponent * Nat.pow 10 places)
        (Binary64.denominator exponent)
      let text := placed places scaled
      if negative then '-' :: text else text

end BenchCharts.Decimal
