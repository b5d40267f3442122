import Stencil.Libraries
import Stencil.Quantity.Nearest
import Stencil.Text.Utf8

/-! Reading the values of fields as flags, with an error for every field whose value is no flag. -/

namespace Stencil
namespace Settings

def onWords : List Text :=
  ["1".toList, "t".toList, "y".toList, "yes".toList, "on".toList, "true".toList]

def offWords : List Text :=
  ["0".toList, "f".toList, "n".toList, "no".toList, "off".toList, "false".toList]

def readWord (text : Text) : Except FieldFault Bool :=
  let word := text.map Char.toLower
  if onWords.contains word then return true
  else if offWords.contains word then return false
  else throw .unreadable

def readWhole (n : Int) : Except FieldFault Bool :=
  if n = 0 then return false else if n = 1 then return true else throw .unreadable

def wholeBound : Int := Nat.pow 2 63

def readInteger (n : Int) : Except FieldFault Bool :=
  if -wholeBound ≤ n ∧ n < wholeBound then readWhole n else throw .wrongType

def readQuantity (quantity : Quantity) : Except FieldFault Bool :=
  match quantity.whole? with
  | some n => if -wholeBound < n ∧ n < wholeBound then readWhole n else throw .wrongType
  | none => throw .wrongType

/-- Flags, the numbers zero and one, and a few words are read as flags. Other forms of numbers than
floating-point ones are first brought to the nearest of these. -/
def readFlag : Value → Except FieldFault Bool
  | .bool flag => return flag
  | .integer n => readInteger n
  | .real bits => readQuantity (Quantity.ofBits bits)
  | .decimal numeral => readQuantity (Quantity.ofNumeral numeral).nearest
  | .fraction numerator denominator => readQuantity (Quantity.ofRatio numerator denominator).nearest
  | .text text => readWord text
  | .bytes octets => readWord (Text.decode octets)
  | _ => throw .wrongType

def readField (values : Overrides) (field : Field) : Except FieldError Bool :=
  match values.reverse.lookup field.name with
  | none => return default.flag field
  | some value =>
    match readFlag value with
    | .ok flag => return flag
    | .error fault => throw ⟨field.name, fault⟩

def fieldErrors (values : Overrides) : List FieldError :=
  Field.all.filterMap fun field =>
    match readField values field with
    | .ok _ => none
    | .error error => some error

def validate (values : Overrides) : Except (List FieldError) Settings := do
  match fieldErrors values with
  | [] =>
    return ofFields fun field =>
      match readField values field with
      | .ok flag => flag
      | .error _ => default.flag field
  | errors => throw errors

def assign (_settings : Settings) (field : Text) (_value : Value) : Except (List FieldError) Settings :=
  throw [⟨field, .frozen⟩]

end Settings
end Stencil
