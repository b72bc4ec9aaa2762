import ActionTree.Decimal

/-! Binary fractions of at most 53 bits. Products and quotients are rounded to the nearest
fraction, and a fraction is written with the fewest decimal digits that read back as it.
All arithmetic is on natural numbers. -/
namespace ActionTree

/-- The fraction `significand * 2 ^ exponent`. -/
structure BinaryFraction where
  significand : Nat
  exponent : Int
  deriving DecidableEq, Repr

/-- A quotient rounded to the nearest natural number; a half goes to the even neighbour. -/
def roundQuotient (dividend divisor : Nat) : Nat :=
  let quotient := dividend / divisor
  let rest := dividend % divisor
  if divisor < 2 * rest ∨ (2 * rest = divisor ∧ quotient % 2 = 1) then quotient + 1 else quotient

/-- The factors by which `base ^ exponent` multiplies a dividend and a divisor. -/
def powerFactors (base : Nat) (exponent : Int) : Nat × Nat :=
  (base.pow exponent.toNat, base.pow (-exponent).toNat)

/-- The exponent of ten below which a quotient lies, within a factor of ten. -/
def placesOfQuotient (dividend divisor : Nat) : Int :=
  if divisor ≤ dividend then (Nat.toDigits 10 (dividend / divisor)).length
  else 1 - (Nat.toDigits 10 ((divisor - 1) / dividend)).length

namespace BinaryFraction

def leastExponent : Int := -1074

def greatestExponent : Int := 971

def zero : BinaryFraction := ⟨0, leastExponent⟩

def ofQuotient (dividend divisor : Nat) : BinaryFraction :=
  if dividend = 0 then zero
  else
    let near : Int := dividend.log2 - divisor.log2 - 52
    let fits (exponent : Int) : Bool :=
      let (up, down) := powerFactors 2 exponent
      Nat.pow 2 52 * divisor * up ≤ dividend * down
    let exponent := max (if fits near then near else near - 1) leastExponent
    let (up, down) := powerFactors 2 exponent
    let significand := roundQuotient (dividend * down) (divisor * up)
    if significand = Nat.pow 2 53 then ⟨Nat.pow 2 52, exponent + 1⟩ else ⟨significand, exponent⟩

def ofNat (value : Nat) : BinaryFraction := ofQuotient value 1

/-- Whether the fraction is one of 64 bits, of which the greatest has 309 places. -/
def InRange (fraction : BinaryFraction) : Prop := fraction.exponent ≤ greatestExponent

instance (fraction : BinaryFraction) : Decidable fraction.InRange :=
  inferInstanceAs (Decidable (_ ≤ _))

def product (a b : BinaryFraction) : BinaryFraction :=
  let (up, down) := powerFactors 2 (a.exponent + b.exponent)
  ofQuotient (a.significand * b.significand * up) down

def quotient (a b : BinaryFraction) : BinaryFraction :=
  let (up, down) := powerFactors 2 (a.exponent - b.exponent)
  ofQuotient (a.significand * up) (b.significand * down)

/-- The closest of the two grid points around a fraction, on the grid of `digits`
significant digits, if one of them reads back as the fraction. Of two that are equally
close the even one is taken. -/
def onGrid? (fraction : BinaryFraction) (digits : Nat) : Option Decimal :=
  let (up, down) := powerFactors 2 (fraction.exponent - 2)
  let value := 4 * fraction.significand
  let low :=
    if fraction.significand = Nat.pow 2 52 ∧ leastExponent < fraction.exponent then value - 1
    else value - 2
  let high := value + 2
  let power := placesOfQuotient (value * up) down - digits
  let (tenUp, tenDown) := powerFactors 10 power
  let unit := tenUp * down
  let scaled (bound : Nat) : Nat := bound * up * tenDown
  let inside (coefficient : Nat) : Bool :=
    if fraction.significand % 2 = 0 then
      scaled low ≤ coefficient * unit && coefficient * unit ≤ scaled high
    else scaled low < coefficient * unit && coefficient * unit < scaled high
  let below := scaled value / unit
  let nearest := roundQuotient (scaled value) unit
  let other := if nearest = below then below + 1 else below
  ([nearest, other].find? inside).map fun coefficient => ⟨coefficient, power⟩

/-- The shortest decimal that reads back; seventeen digits are always enough. -/
def shortest (fraction : BinaryFraction) : Decimal :=
  ((List.range 17).findSome? fun count => fraction.onGrid? (count + 1)).getD ⟨0, 0⟩

def text (fraction : BinaryFraction) : String := fraction.shortest.text

end BinaryFraction
end ActionTree
