import Stencil.Quantity

/-! The floating-point number nearest to an exact quantity. Of two that are equally near, the one with an
even last binary digit is taken. -/

namespace Stencil
namespace Quantity

def nearestWhole (numerator denominator : Nat) : Nat :=
  let below := numerator / denominator
  let twice := 2 * (numerator % denominator)
  if twice < denominator || (twice = denominator && below % 2 = 0) then below else below + 1

def powerBelow (numerator denominator : Nat) : Int :=
  let power : Int := numerator.log2 - denominator.log2
  if denominator * Nat.pow 2 power.toNat ≤ numerator * Nat.pow 2 (-power).toNat then power
  else power - 1

def lastExponent (numerator denominator : Nat) : Int :=
  max (powerBelow numerator denominator - 52) (-1074)

def nearestToFraction (negative : Bool) (numerator denominator : Nat) : Quantity :=
  let exponent := lastExponent numerator denominator
  let mantissa :=
    nearestWhole (numerator * Nat.pow 2 (-exponent).toNat) (denominator * Nat.pow 2 exponent.toNat)
  if Nat.pow 2 1024 ≤ mantissa * Nat.pow 2 exponent.toNat then .infinite negative
  else ofParts negative mantissa 1 exponent 0

def fivesBounds (fives : Int) : Int × Int :=
  (min (2 * fives) (3 * fives), max (2 * fives) (3 * fives))

/-- The nearest floating-point number. Quantities far outside the range of these numbers, of which the
power may be too great to be written out, are told by the bounds of their powers of two. -/
def nearest : Quantity → Quantity
  | .finite negative numerator denominator twos fives =>
    let (low, high) := fivesBounds fives
    let power : Int := numerator.log2 - denominator.log2 + twos
    if numerator = 0 || power + 1 + high < -1075 then zero
    else if 1024 < power - 1 + low then .infinite negative
    else
      nearestToFraction negative (numerator * Nat.pow 2 twos.toNat * Nat.pow 5 fives.toNat)
        (denominator * Nat.pow 2 (-twos).toNat * Nat.pow 5 (-fives).toNat)
  | other => other

end Quantity
end Stencil
