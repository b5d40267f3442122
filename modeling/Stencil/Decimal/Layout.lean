import Stencil.Decimal.Shortest

/-! The text of a floating-point number: its shortest digits, laid out with or without an exponent. -/

namespace Stencil
namespace Decimal

/-- Numbers whose first digit has an exponent from `positionalFrom` up to `positionalTo` are written
without one; `pointZero` marks whole numbers among them by a point and a zero. -/
structure Layout where
  positionalFrom : Int
  positionalTo : Int
  pointZero : Bool
  infinite : Text
  undefined : Text

def plainLayout : Layout := ⟨-4, 15, true, "inf".toList, "nan".toList⟩

def partLayout : Layout := { plainLayout with pointZero := false }

def jsonLayout : Layout :=
  { plainLayout with infinite := "Infinity".toList, undefined := "NaN".toList }

def significant (digits : Nat) : Text :=
  ((Numeral.ofNat digits).reverse.dropWhile (· = '0')).reverse

def positional (layout : Layout) (row : Text) (whole : Int) : Text :=
  if whole ≤ 0 then '0' :: '.' :: (List.replicate (-whole).toNat '0' ++ row)
  else
    let before := row.take whole.toNat
    let after := row.drop whole.toNat
    let padded := before ++ List.replicate (whole.toNat - before.length) '0'
    if after.isEmpty then if layout.pointZero then padded ++ ['.', '0'] else padded
    else padded ++ '.' :: after

def scientific (row : Text) (exponent : Int) : Text :=
  let places := Numeral.ofNat exponent.natAbs
  row.take 1 ++ (if row.length ≤ 1 then [] else '.' :: row.drop 1) ++
    'e' :: (if exponent < 0 then '-' else '+') ::
    (List.replicate (2 - places.length) '0' ++ places)

def digitsText (layout : Layout) (decimal : Digits) : Text :=
  let length := (Numeral.ofNat decimal.digits).length
  let row := significant decimal.digits
  let exponent := decimal.exponent + length - 1
  if layout.positionalFrom ≤ exponent ∧ exponent ≤ layout.positionalTo then
    positional layout row (exponent + 1)
  else scientific row exponent

def magnitudeText (layout : Layout) (bits : UInt64) : Text :=
  match magnitude bits with
  | .zero => if layout.pointZero then ['0', '.', '0'] else ['0']
  | .finite binary => digitsText layout binary.shortest
  | .infinite => layout.infinite
  | .undefined => layout.undefined

def hasMinus (bits : UInt64) : Bool :=
  match magnitude bits with
  | .undefined => false
  | .zero | .finite _ | .infinite => isNegative bits

def text (layout : Layout) (bits : UInt64) : Text :=
  if hasMinus bits then '-' :: magnitudeText layout bits else magnitudeText layout bits

def signedText (layout : Layout) (bits : UInt64) : Text :=
  (if hasMinus bits then '-' else '+') :: magnitudeText layout bits

def complexText (re im : UInt64) : Text :=
  match magnitude re, isNegative re with
  | .zero, false => text partLayout im ++ ['j']
  | _, _ => '(' :: (text partLayout re ++ signedText partLayout im ++ ['j', ')'])

end Decimal
end Stencil
