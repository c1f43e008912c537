import BenchCharts.Decimal.Shortest

/-!
How a double is written. The digits are the shortest ones; a form says up to which decimal
exponents the point is placed among them, how an exponent is marked beyond that, and what stands
for the values that are no numbers.
-/
namespace BenchCharts.Decimal

structure NumberForm where
  /-- Decimal exponents from here on are written with a point. -/
  least : Int
  /-- Decimal exponents up to here are written with a point. -/
  greatest : Int
  /-- A whole number ends in a point and a zero. -/
  wholePoint : Bool
  /-- A positive exponent carries its sign. -/
  plusSign : Bool
  nan : String
  infinity : String
  negativeInfinity : String

namespace NumberForm

/-- Plain digits with the point `before` places from their start. -/
def withPoint (wholePoint : Bool) (digits : List Char) (before : Int) : List Char :=
  if before ≤ 0 then
    '0' :: '.' :: List.replicate (-before).toNat '0' ++ digits
  else
    let before := before.toNat
    if before < digits.length then digits.take before ++ '.' :: digits.drop before
    else
      digits ++ List.replicate (before - digits.length) '0' ++
        if wholePoint then ['.', '0'] else []

def withExponent (plusSign : Bool) (digits : List Char) (exponent : Int) : List Char :=
  let head := match digits with
    | [] => []
    | [d] => [d]
    | d :: rest => d :: '.' :: rest
  let sign := if exponent < 0 then ['-'] else if plusSign then ['+'] else []
  head ++ 'e' :: sign ++ Nat.toDigits 10 exponent.natAbs

/-- The text of a positive decimal number. -/
def ofNumber (form : NumberForm) (d : Number) : List Char :=
  let digits := Nat.toDigits 10 d.digits
  let exponent := d.exponent + digits.length - 1
  if form.least ≤ exponent ∧ exponent ≤ form.greatest then
    withPoint form.wholePoint digits (exponent + 1)
  else withExponent form.plusSign digits exponent

def write (form : NumberForm) (x : Float) : String :=
  match Binary64.ofFloat x with
  | .nan => form.nan
  | .infinite false => form.infinity
  | .infinite true => form.negativeInfinity
  | .finite negative mantissa exponent =>
      let magnitude :=
        if mantissa = 0 then if form.wholePoint then ['0', '.', '0'] else ['0']
        else form.ofNumber (shortest mantissa exponent)
      String.ofList (if negative then '-' :: magnitude else magnitude)

end NumberForm

end BenchCharts.Decimal
