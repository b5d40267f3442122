import Stencil.Proofs.Numerals

/-! The grammar of JSON texts, and the data that each of them says. -/

namespace Stencil

/-- What a JSON text says. A number with a fraction or an exponent is kept exact, as a whole number times a
power of ten. -/
inductive Datum where
  | null
  | bool (flag : Bool)
  | integer (n : Int)
  | decimal (mantissa exponent : Int)
  | string (content : Text)
  | array (items : List Datum)
  | object (fields : List (Text × Datum))

namespace Datum

def blanks : List Char := [' ', '\t', '\n', '\r']

structure Padded where
  before : Text
  text : Text
  after : Text
  blankBefore : ∀ c ∈ before, c ∈ blanks
  blankAfter : ∀ c ∈ after, c ∈ blanks

def Padded.whole (padded : Padded) : Text :=
  padded.before ++ (padded.text ++ padded.after)

structure FieldText where
  name : Padded
  value : Padded

def FieldText.whole (field : FieldText) : Text :=
  field.name.whole ++ ':' :: field.value.whole

def shortEscapes : List (Char × Char) :=
  [('"', '"'), ('\\', '\\'), ('/', '/'), ('b', Char.ofNat 0x08), ('f', Char.ofNat 0x0c), ('n', '\n'),
    ('r', '\r'), ('t', '\t')]

def hexDigit? (c : Char) : Option Nat :=
  if '0' ≤ c ∧ c ≤ '9' then some (c.toNat - '0'.toNat)
  else if 'a' ≤ c ∧ c ≤ 'f' then some (c.toNat - 'a'.toNat + 10)
  else if 'A' ≤ c ∧ c ≤ 'F' then some (c.toNat - 'A'.toNat + 10)
  else none

def hexValue? (digits : Text) : Option Nat :=
  digits.foldlM (fun total c => (hexDigit? c).map (16 * total + ·)) 0

def isHighSurrogate (code : Nat) : Bool :=
  0xd800 ≤ code && code < 0xdc00

def isLowSurrogate (code : Nat) : Bool :=
  0xdc00 ≤ code && code < 0xe000

def joinSurrogates (high low : Nat) : Char :=
  Char.ofNat (0x10000 + (high - 0xd800) * 0x400 + (low - 0xdc00))

structure SpellsUnit (digits : Text) (code : Nat) : Prop where
  four : digits.length = 4
  value : hexValue? digits = some code

/-- How a character is written in a string. A surrogate says nothing without its other half. -/
inductive SpellsChar : Text → Char → Prop
  | plain {c} : ' ' ≤ c → c ≠ '"' → c ≠ '\\' → SpellsChar [c] c
  | short {letter c} : (letter, c) ∈ shortEscapes → SpellsChar ['\\', letter] c
  | unit {digits : Text} {code : Nat} : SpellsUnit digits code → isHighSurrogate code = false →
      isLowSurrogate code = false → SpellsChar ('\\' :: 'u' :: digits) (Char.ofNat code)
  | pair {digits others : Text} {high low : Nat} : SpellsUnit digits high → isHighSurrogate high = true →
      SpellsUnit others low → isLowSurrogate low = true →
      SpellsChar ('\\' :: 'u' :: (digits ++ '\\' :: 'u' :: others)) (joinSurrogates high low)

inductive SpellsChars : Text → Text → Prop
  | nil : SpellsChars [] []
  | cons {piece c rest content} : SpellsChar piece c → SpellsChars rest content →
      SpellsChars (piece ++ rest) (c :: content)

inductive SpellsString : Text → Text → Prop
  | quoted {inside content} : SpellsChars inside content → SpellsString ('"' :: (inside ++ ['"'])) content

structure IsWhole (digits : Text) : Prop where
  decimal : digits.IsDecimal
  unpadded : digits.head? = some '0' → digits = ['0']

inductive SpellsPlaces : Text → Option Text → Prop
  | none : SpellsPlaces [] none
  | some {digits : Text} : digits.IsDecimal → SpellsPlaces ('.' :: digits) (some digits)

def exponentLetters : List Char := ['e', 'E']

inductive SpellsPower : Text → Option Int → Prop
  | none : SpellsPower [] none
  | plain {letter : Char} {digits : Text} : letter ∈ exponentLetters → digits.IsDecimal →
      SpellsPower (letter :: digits) (some (Numeral.value digits))
  | plus {letter : Char} {digits : Text} : letter ∈ exponentLetters → digits.IsDecimal →
      SpellsPower (letter :: '+' :: digits) (some (Numeral.value digits))
  | minus {letter : Char} {digits : Text} : letter ∈ exponentLetters → digits.IsDecimal →
      SpellsPower (letter :: '-' :: digits) (some (-Numeral.value digits))

def signed (negative : Bool) (n : Nat) : Int :=
  if negative then -n else n

def signText (negative : Bool) : Text :=
  if negative then ['-'] else []

def ofNumber (negative : Bool) (whole : Text) (places : Option Text) (power : Option Int) : Datum :=
  match places, power with
  | none, none => .integer (signed negative (Numeral.value whole))
  | _, _ =>
    .decimal (signed negative (Numeral.value (whole ++ places.getD [])))
      (power.getD 0 - (places.getD []).length)

inductive SpellsNumber : Text → Datum → Prop
  | parts {negative : Bool} {whole placesText powerText : Text} {places : Option Text} {power : Option Int} :
      IsWhole whole → SpellsPlaces placesText places → SpellsPower powerText power →
      SpellsNumber (signText negative ++ (whole ++ (placesText ++ powerText)))
        (ofNumber negative whole places power)

def namedData : List (Text × Datum) :=
  [("null".toList, .null), ("true".toList, .bool true), ("false".toList, .bool false)]

inductive Spells : Text → Datum → Prop
  | named {text datum} : (text, datum) ∈ namedData → Spells text datum
  | number {text datum} : SpellsNumber text datum → Spells text datum
  | string {text content} : SpellsString text content → Spells text (.string content)
  | emptyArray {blank : Text} : (∀ c ∈ blank, c ∈ blanks) → Spells ('[' :: (blank ++ [']'])) (.array [])
  | array {pieces : List Padded} {items} : pieces ≠ [] → pieces.length = items.length →
      (∀ piece item, (piece, item) ∈ pieces.zip items → Spells piece.text item) →
      Spells ('[' :: (List.intercalate [','] (pieces.map Padded.whole) ++ [']'])) (.array items)
  | emptyObject {blank : Text} : (∀ c ∈ blank, c ∈ blanks) → Spells ('{' :: (blank ++ ['}'])) (.object [])
  | object {pieces : List FieldText} {fields : List (Text × Datum)} : pieces ≠ [] →
      pieces.length = fields.length →
      (∀ piece field, (piece, field) ∈ pieces.zip fields → SpellsString piece.name.text field.1) →
      (∀ piece field, (piece, field) ∈ pieces.zip fields → Spells piece.value.text field.2) →
      Spells ('{' :: (List.intercalate [','] (pieces.map FieldText.whole) ++ ['}'])) (.object fields)

/-- A JSON text is a value with blanks around it. -/
def IsSaidBy (datum : Datum) (text : Text) : Prop :=
  ∃ padded : Padded, padded.whole = text ∧ Spells padded.text datum

end Datum
end Stencil
