import Stencil.Numeral

/-! The shortest decimal that reads back as a given floating-point number, found in whole-number
arithmetic. -/

namespace Stencil
namespace Decimal

/-- A positive floating-point number `mantissa * 2 ^ exponent`; `tight` if the next smaller number is
only half as far away as the next larger one. -/
structure Binary where
  mantissa : Nat
  exponent : Int
  tight : Bool

inductive Magnitude where
  | zero
  | finite (binary : Binary)
  | infinite
  | undefined

def magnitude (bits : UInt64) : Magnitude :=
  let fraction : Nat := bits.toNat % Nat.pow 2 52
  let field : Nat := bits.toNat / Nat.pow 2 52 % Nat.pow 2 11
  if field = 2047 then if fraction = 0 then .infinite else .undefined
  else if field = 0 then if fraction = 0 then .zero else .finite ⟨fraction, -1074, false⟩
  else .finite ⟨Nat.pow 2 52 + fraction, Int.ofNat field - 1075, fraction = 0 && 1 < field⟩

def isNegative (bits : UInt64) : Bool :=
  Nat.pow 2 63 ≤ bits.toNat

structure Digits where
  digits : Nat
  exponent : Int

/-- The numbers that read back as a floating-point number, as multiples of `1 / scale`; the ends
belong to them if `closed`. -/
structure Interval where
  low : Nat
  value : Nat
  high : Nat
  scale : Nat
  closed : Bool

def Binary.interval (binary : Binary) : Interval :=
  let up := Nat.pow 2 binary.exponent.toNat
  let below := if binary.tight then 1 else 2
  { low := (4 * binary.mantissa - below) * up
    value := 4 * binary.mantissa * up
    high := (4 * binary.mantissa + 2) * up
    scale := 4 * Nat.pow 2 (-binary.exponent).toNat
    closed := binary.mantissa % 2 = 0 }

def Interval.leadingExponent (interval : Interval) : Int :=
  if interval.scale ≤ interval.value then
    (Numeral.ofNat (interval.value / interval.scale)).length - 1
  else
    let places := (Numeral.ofNat (interval.scale / interval.value)).length
    if interval.scale ≤ interval.value * Nat.pow 10 (places - 1) then -(places - 1 : Nat) else -places

def Interval.holds (interval : Interval) (decimal : Digits) : Bool :=
  let point := decimal.digits * Nat.pow 10 decimal.exponent.toNat * interval.scale
  let unit := Nat.pow 10 (-decimal.exponent).toNat
  if interval.closed then interval.low * unit ≤ point && point ≤ interval.high * unit
  else interval.low * unit < point && point < interval.high * unit

def Interval.distance (interval : Interval) (decimal : Digits) : Nat :=
  let point := decimal.digits * Nat.pow 10 decimal.exponent.toNat * interval.scale
  let value := interval.value * Nat.pow 10 (-decimal.exponent).toNat
  (point - value) + (value - point)

def Interval.floorOn (interval : Interval) (exponent : Int) : Nat :=
  interval.value * Nat.pow 10 (-exponent).toNat / (interval.scale * Nat.pow 10 exponent.toNat)

def Interval.onGrid? (interval : Interval) (exponent : Int) : Option Digits :=
  let quotient := interval.floorOn exponent
  let below : Digits := ⟨quotient, exponent⟩
  let above : Digits := ⟨quotient + 1, exponent⟩
  match interval.holds below, interval.holds above with
  | true, true =>
    if interval.distance below < interval.distance above then some below
    else if interval.distance above < interval.distance below then some above
    else if quotient % 2 = 0 then some below else some above
  | true, false => some below
  | false, true => some above
  | false, false => none

def Interval.search (interval : Interval) : (grids : Nat) → (exponent : Int) → Digits
  | 0, exponent => ⟨interval.floorOn exponent, exponent⟩
  | grids + 1, exponent =>
    match interval.onGrid? exponent with
    | some decimal => decimal
    | none => interval.search grids (exponent - 1)

def Binary.shortest (binary : Binary) : Digits :=
  let interval := binary.interval
  interval.search 17 interval.leadingExponent

end Decimal
end Stencil
