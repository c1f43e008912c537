import BenchCharts.Decimal.Fixed

/-!
Labels along an axis. Whole values and those of at least one hundred have no decimals; others have
three at most, without zeros at their end.
-/
namespace BenchCharts.Canvas

open Decimal (Binary64)

/-- The text without `c` at its end. -/
def trimRight (c : Char) (cs : List Char) : List Char := (cs.reverse.dropWhile (· = c)).reverse

/-- The value is a whole number. -/
def isWhole (mantissa : Nat) (exponent : Int) : Bool :=
  Binary64.numerator mantissa exponent % Binary64.denominator exponent = 0

def reachesHundred (mantissa : Nat) (exponent : Int) : Bool :=
  100 * Binary64.denominator exponent ≤ Binary64.numerator mantissa exponent

def tickChars : Binary64 → List Char
  | .finite negative mantissa exponent =>
      let value := Binary64.finite negative mantissa exponent
      if isWhole mantissa exponent || reachesHundred mantissa exponent then Decimal.fixed 0 value
      else trimRight '.' (trimRight '0' (Decimal.fixed 3 value))
  | value => Decimal.fixed 0 value

def tickLabel (v : Float) : String := String.ofList (tickChars (Binary64.ofFloat v))

end BenchCharts.Canvas
