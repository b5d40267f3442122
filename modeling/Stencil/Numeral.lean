import Stencil.Text

/-! Decimal numerals of whole numbers, with the greatest number of digits that is read or written. -/

namespace Stencil
namespace Numeral

def digitLimit : Nat := 4300

def isDigit (c : Char) : Bool :=
  '0' ≤ c && c ≤ '9'

def digit (n : Nat) : Char :=
  Char.ofNat ('0'.toNat + n)

def digitsOnto : (places n : Nat) → (written : Text) → Text
  | 0, _, written => written
  | places + 1, n, written =>
    if n < 10 then digit n :: written else digitsOnto places (n / 10) (digit (n % 10) :: written)

def ofNat (n : Nat) : Text :=
  digitsOnto (n + 1) n []

def ofInt (n : Int) : Text :=
  if n < 0 then '-' :: ofNat n.natAbs else ofNat n.natAbs

def value (digits : Text) : Nat :=
  digits.foldl (fun total c => 10 * total + (c.toNat - '0'.toNat)) 0

def exceedsLimit (n : Int) : Bool :=
  digitLimit < (ofNat n.natAbs).length

end Numeral
end Stencil
