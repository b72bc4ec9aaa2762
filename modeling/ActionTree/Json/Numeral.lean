import ActionTree.Json

/-! Numerals of JSON and their values. A whole number of 64 bits is an integer. Any other
numeral is a binary fraction: its leading digits that fit 64 bits are rounded to one, and
so is the power of ten that they are multiplied or divided by, before the result is. -/
namespace ActionTree.Json

structure Numeral where
  negative : Bool
  whole : List Nat
  part : List Nat
  /-- The exponent, where one is written. -/
  power? : Option Int
  deriving DecidableEq, Repr

/-- Appends decimal digits to a number of 64 bits, up to the first that does not fit. -/
def gather (value : Nat) : List Nat → Nat × List Nat
  | [] => (value, [])
  | digit :: rest =>
      if 10 * value + digit < Nat.pow 2 64 then gather (10 * value + digit) rest
      else (value, digit :: rest)

theorem gatherBelow {value : Nat} (below : value < Nat.pow 2 64) (digits : List Nat) :
    (gather value digits).1 < Nat.pow 2 64 := by
  induction digits generalizing value with
  | nil => exact below
  | cons digit rest ih =>
    simp only [gather]
    split
    · rename_i fits
      exact ih fits
    · exact below

theorem gatherSuffix (value : Nat) (digits : List Nat) : (gather value digits).2 <:+ digits := by
  induction digits generalizing value with
  | nil => exact List.suffix_rfl
  | cons digit rest ih =>
    simp only [gather]
    split
    · exact (ih _).trans (List.suffix_cons digit rest)
    · exact List.suffix_rfl

/-- The greatest power of ten that is a binary fraction of 64 bits. -/
def greatestPower : Nat := 308

def powerOfTen (power : Nat) : BinaryFraction := .ofNat (Nat.pow 10 power)

/-- A fraction times a power of ten, unless that is out of range. Small powers are
divided by in turn. -/
def scale? (fraction : BinaryFraction) (power : Int) : Option BinaryFraction :=
  if power.natAbs ≤ greatestPower then
    if 0 ≤ power then
      let product := fraction.product (powerOfTen power.toNat)
      if product.InRange then some product else none
    else some (fraction.quotient (powerOfTen power.natAbs))
  else if fraction.significand = 0 then some fraction
  else if 0 ≤ power then none
  else scale? (fraction.quotient (powerOfTen greatestPower)) (power + greatestPower)
termination_by power.natAbs
decreasing_by
  simp only [greatestPower] at *
  omega

/-- A whole number, where zero with a sign is a fraction. -/
def ofWhole (negative : Bool) (size : Nat) : Json :=
  if negative then
    if 0 < size ∧ size ≤ Nat.pow 2 63 then .integer (-size) else .fraction true (.ofNat size)
  else .integer size

namespace Numeral

def value? (numeral : Numeral) : Option Json :=
  let (leading, dropped) := gather 0 numeral.whole
  if dropped = [] ∧ numeral.part = [] ∧ numeral.power? = none then
    some (ofWhole numeral.negative leading)
  else
    let (significand, cut) := gather leading numeral.part
    let places : Int := dropped.length - (numeral.part.length - cut.length : Nat)
    (scale? (.ofNat significand) (places + numeral.power?.getD 0)).map (.fraction numeral.negative)

end Numeral
end ActionTree.Json
