import Stencil.Decimal.Shortest

/-! Exact quantities. Numbers of every form are brought to one form, in which equal numbers are the same
and a great exponent is never written out. -/

namespace Stencil

/-- `numerator / denominator * 2 ^ twos * 5 ^ fives`, in lowest terms and with no more factors of two
or five above or below the line; or a quantity that no fraction is. -/
inductive Quantity where
  | finite (negative : Bool) (numerator denominator : Nat) (twos fives : Int)
  | infinite (negative : Bool)
  | undefined
deriving DecidableEq

namespace Quantity

def zero : Quantity := .finite false 0 1 0 0

def splitOff (factor : Nat) : (bound : Nat) → Nat → Nat × Nat
  | 0, n => (0, n)
  | bound + 1, n =>
    if n % factor = 0 then
      let (count, rest) := splitOff factor bound (n / factor)
      (count + 1, rest)
    else (0, n)

def factors (n : Nat) : Nat × Nat × Nat :=
  let (twos, odd) := splitOff 2 (n.log2 + 1) n
  let (fives, rest) := splitOff 5 (odd.log2 + 1) odd
  (twos, fives, rest)

def ofParts (negative : Bool) (numerator denominator : Nat) (twos fives : Int) : Quantity :=
  if numerator = 0 then zero
  else
    let common := Nat.gcd numerator denominator
    let (twosAbove, fivesAbove, above) := factors (numerator / common)
    let (twosBelow, fivesBelow, below) := factors (denominator / common)
    .finite negative above below (twos + twosAbove - twosBelow) (fives + fivesAbove - fivesBelow)

def ofRatio (numerator : Int) (denominator : Nat) : Quantity :=
  ofParts (numerator < 0) numerator.natAbs denominator 0 0

def ofInt (n : Int) : Quantity :=
  ofRatio n 1

def ofBits (bits : UInt64) : Quantity :=
  match Decimal.magnitude bits with
  | .zero => zero
  | .finite binary => ofParts (Decimal.isNegative bits) binary.mantissa 1 binary.exponent 0
  | .infinite => .infinite (Decimal.isNegative bits)
  | .undefined => .undefined

def signedValue : Text → Int
  | '-' :: digits => -Numeral.value digits
  | '+' :: digits => Numeral.value digits
  | digits => Numeral.value digits

def ofUnsigned (negative : Bool) (numeral : Text) : Quantity :=
  match numeral with
  | 'I' :: _ => .infinite negative
  | 'N' :: _ | 's' :: _ => .undefined
  | _ =>
    let front := numeral.takeWhile (· ≠ 'E')
    let whole := front.takeWhile (· ≠ '.')
    let places := (front.dropWhile (· ≠ '.')).drop 1
    let tens := signedValue ((numeral.dropWhile (· ≠ 'E')).drop 1) - places.length
    ofParts negative (Numeral.value (whole ++ places)) 1 tens tens

def ofNumeral : Text → Quantity
  | '-' :: numeral => ofUnsigned true numeral
  | numeral => ofUnsigned false numeral

def whole? : Quantity → Option Int
  | .finite negative numerator denominator twos fives =>
    if denominator = 1 ∧ 0 ≤ twos ∧ 0 ≤ fives then
      let size : Nat := numerator * Nat.pow 2 twos.toNat * Nat.pow 5 fives.toNat
      some (if negative then -size else size)
    else none
  | .infinite _ | .undefined => none

def same (left right : Quantity) : Bool :=
  left = right && left ≠ .undefined

end Quantity
end Stencil
