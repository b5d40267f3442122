import Stencil.Text.Hidden

/-! Quoted texts and octets: between single quotes unless the text holds single quotes and no double
ones, with escapes for the quote, the backslash and everything hidden. -/

namespace Stencil
namespace Text

def quoteFor (text : Text) : Char :=
  if text.contains '\'' && !text.contains '"' then '"' else '\''

def hexDigit (n : Nat) : Char :=
  if n < 10 then Char.ofNat ('0'.toNat + n) else Char.ofNat ('a'.toNat + (n - 10))

def hexDigits : (width n : Nat) → Text
  | 0, _ => []
  | width + 1, n => hexDigits width (n / 16) ++ [hexDigit (n % 16)]

def escapeNumber (code : Nat) : Text :=
  if code < 0x100 then '\\' :: 'x' :: hexDigits 2 code
  else if code < 0x10000 then '\\' :: 'u' :: hexDigits 4 code
  else '\\' :: 'U' :: hexDigits 8 code

def escapeChar (quote c : Char) : Text :=
  if c = quote ∨ c = '\\' then ['\\', c]
  else if c = '\n' then ['\\', 'n']
  else if c = '\r' then ['\\', 'r']
  else if c = '\t' then ['\\', 't']
  else if isHidden c then escapeNumber c.toNat
  else [c]

def quoted (text : Text) : Text :=
  let quote := quoteFor text
  quote :: (text.flatMap (escapeChar quote) ++ [quote])

def escapeOctet (quote : Char) (octet : UInt8) : Text :=
  let c := Char.ofNat octet.toNat
  if octet < 0x7f then escapeChar quote c else '\\' :: 'x' :: hexDigits 2 octet.toNat

def quoteForOctets (octets : List UInt8) : Char :=
  quoteFor (octets.map fun octet => Char.ofNat octet.toNat)

def quotedOctets (octets : List UInt8) : Text :=
  let quote := quoteForOctets octets
  'b' :: quote :: (octets.flatMap (escapeOctet quote) ++ [quote])

def quotedOctetArray (octets : List UInt8) : Text :=
  let quote := quoteForOctets octets
  'b' :: quote :: (octets.flatMap (escapeOctet '\'') ++ [quote])

end Text
end Stencil
