import Stencil.Text

/-! Texts as octets: each character in one to four octets. Octets that are no such text decode with
a replacement character for every longest piece that begins a character and cannot end it. -/

namespace Stencil
namespace Text

def replacement : Char := Char.ofNat 0xfffd

def encodeChar (c : Char) : List UInt8 :=
  let code := c.toNat
  if code < 0x80 then [code.toUInt8]
  else if code < 0x800 then [(0xc0 + code / 0x40).toUInt8, (0x80 + code % 0x40).toUInt8]
  else if code < 0x10000 then
    [(0xe0 + code / 0x1000).toUInt8, (0x80 + code / 0x40 % 0x40).toUInt8,
     (0x80 + code % 0x40).toUInt8]
  else
    [(0xf0 + code / 0x40000).toUInt8, (0x80 + code / 0x1000 % 0x40).toUInt8,
     (0x80 + code / 0x40 % 0x40).toUInt8, (0x80 + code % 0x40).toUInt8]

def encode (text : Text) : List UInt8 :=
  text.flatMap encodeChar

/-- A character of which `missing` octets are still to come; the next one lies between `low` and
`high`, and `code` is what the octets so far amount to. -/
structure Unfinished where
  code : Nat
  missing : Nat
  low : Nat
  high : Nat

inductive Lead where
  | complete (c : Char)
  | begun (sequence : Unfinished)
  | invalid

/-- The second octet is bounded so that no character has two spellings and none lies outside the
range of characters. -/
def lead (octet : Nat) : Lead :=
  if octet < 0x80 then .complete (Char.ofNat octet)
  else if octet < 0xc2 then .invalid
  else if octet < 0xe0 then .begun ⟨octet - 0xc0, 1, 0x80, 0xbf⟩
  else if octet = 0xe0 then .begun ⟨0, 2, 0xa0, 0xbf⟩
  else if octet = 0xed then .begun ⟨0xd, 2, 0x80, 0x9f⟩
  else if octet < 0xf0 then .begun ⟨octet - 0xe0, 2, 0x80, 0xbf⟩
  else if octet = 0xf0 then .begun ⟨0, 3, 0x90, 0xbf⟩
  else if octet < 0xf4 then .begun ⟨octet - 0xf0, 3, 0x80, 0xbf⟩
  else if octet = 0xf4 then .begun ⟨4, 3, 0x80, 0x8f⟩
  else .invalid

def decodeFrom : List UInt8 → Option Unfinished → Text
  | [], none => []
  | [], some _ => [replacement]
  | octet :: rest, none =>
    match lead octet.toNat with
    | .complete c => c :: decodeFrom rest none
    | .begun sequence => decodeFrom rest (some sequence)
    | .invalid => replacement :: decodeFrom rest none
  | octet :: rest, some sequence =>
    let n := octet.toNat
    if sequence.low ≤ n ∧ n ≤ sequence.high then
      let code := sequence.code * 0x40 + (n - 0x80)
      if sequence.missing ≤ 1 then Char.ofNat code :: decodeFrom rest none
      else decodeFrom rest (some ⟨code, sequence.missing - 1, 0x80, 0xbf⟩)
    else
      match lead n with
      | .complete c => replacement :: c :: decodeFrom rest none
      | .begun next => replacement :: decodeFrom rest (some next)
      | .invalid => replacement :: replacement :: decodeFrom rest none

def decode (octets : List UInt8) : Text :=
  decodeFrom octets none

end Text
end Stencil
