import Stencil.Decimal.Layout
import Stencil.Text.Quoted

/-! Data trees and their JSON text in visible ASCII characters. -/

namespace Stencil

inductive Json where
  | null
  | bool (flag : Bool)
  | integer (n : Int)
  | real (bits : UInt64)
  | string (text : Text)
  | array (items : List Json)
  | object (fields : List (Text × Json))

namespace Json

def unitEscape (unit : Nat) : Text :=
  '\\' :: 'u' :: Text.hexDigits 4 unit

def numericEscape (code : Nat) : Text :=
  if code < 0x10000 then unitEscape code
  else unitEscape (0xd800 + (code - 0x10000) / 0x400) ++ unitEscape (0xdc00 + (code - 0x10000) % 0x400)

def escapeChar (c : Char) : Text :=
  if c = '"' then ['\\', '"']
  else if c = '\\' then ['\\', '\\']
  else if c = '\n' then ['\\', 'n']
  else if c = '\r' then ['\\', 'r']
  else if c = '\t' then ['\\', 't']
  else if c = Char.ofNat 0x0c then ['\\', 'f']
  else if c = Char.ofNat 0x08 then ['\\', 'b']
  else if ' ' ≤ c ∧ c ≤ '~' then [c]
  else numericEscape c.toNat

def stringText (text : Text) : Text :=
  '"' :: (text.flatMap escapeChar ++ ['"'])

def boolText (flag : Bool) : Text :=
  if flag then "true".toList else "false".toList

mutual

def write : Json → Text
  | .null => "null".toList
  | .bool flag => boolText flag
  | .integer n => Numeral.ofInt n
  | .real bits => Decimal.text Decimal.jsonLayout bits
  | .string text => stringText text
  | .array items => '[' :: (writeItems items ++ [']'])
  | .object fields => '{' :: (writeFields fields ++ ['}'])

def writeItems : List Json → Text
  | [] => []
  | item :: rest => item.write ++ writeLaterItems rest

def writeLaterItems : List Json → Text
  | [] => []
  | item :: rest => ',' :: ' ' :: (item.write ++ writeLaterItems rest)

def writeFields : List (Text × Json) → Text
  | [] => []
  | (name, value) :: rest => stringText name ++ ':' :: ' ' :: (value.write ++ writeLaterFields rest)

def writeLaterFields : List (Text × Json) → Text
  | [] => []
  | (name, value) :: rest =>
    ',' :: ' ' :: (stringText name ++ ':' :: ' ' :: (value.write ++ writeLaterFields rest))

end

end Json
end Stencil
