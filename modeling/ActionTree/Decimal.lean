/-! Decimal numbers and their text. From `10 ^ -5` up to `10 ^ 16` a number is written out
with a point; elsewhere its first digit is followed by the point and by a signed exponent. -/
namespace ActionTree

/-- The number `coefficient * 10 ^ power`. -/
structure Decimal where
  coefficient : Nat
  power : Int
  deriving DecidableEq, Repr

namespace Decimal

/-- The digits of the coefficient up to the last that is not zero. -/
def significantDigits (number : Decimal) : List Char :=
  ((Nat.toDigits 10 number.coefficient).reverse.dropWhile (· == '0')).reverse

/-- The power of ten that the first digit stands for. -/
def magnitude (number : Decimal) : Int :=
  (Nat.toDigits 10 number.coefficient).length - 1 + number.power

def writtenOut (digits : List Char) (magnitude : Int) : String :=
  if 0 ≤ magnitude then
    let places := magnitude.toNat + 1
    let whole := digits.take places ++ List.replicate (places - digits.length) '0'
    let part := digits.drop places
    String.ofList whole ++ "." ++ if part = [] then "0" else String.ofList part
  else "0." ++ String.ofList (List.replicate (-magnitude - 1).toNat '0' ++ digits)

def withExponent (digits : List Char) (magnitude : Int) : String :=
  let part := digits.drop 1
  String.ofList (digits.take 1) ++ (if part = [] then "" else "." ++ String.ofList part) ++
    (if magnitude < 0 then "e-" else "e+") ++ String.ofList (Nat.toDigits 10 magnitude.natAbs)

def text (number : Decimal) : String :=
  if number.coefficient = 0 then "0.0"
  else if -5 ≤ number.magnitude ∧ number.magnitude < 16 then
    writtenOut number.significantDigits number.magnitude
  else withExponent number.significantDigits number.magnitude

end Decimal
end ActionTree
