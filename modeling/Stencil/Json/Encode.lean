import Stencil.Json
import Stencil.Value.Written

/-! The data tree of a value. Lists, tuples and mappings that can change are entered; everything else
that JSON has no form for becomes the string of its text. -/

namespace Stencil

namespace SequenceFlavour

def isArray : SequenceFlavour → Bool
  | .list | .tuple | .named _ _ => true
  | .deque => false

end SequenceFlavour

namespace MappingFlavour

def isJsonObject : MappingFlavour → Bool
  | .plain | .ordered | .defaulting _ => true
  | .readOnly => false

end MappingFlavour

namespace Json

def fieldName (store : Store) : Value → Except Failure Text
  | .text text => return text
  | .integer n => integerText n
  | .real bits => return Decimal.text Decimal.jsonLayout bits
  | .bool flag => return boolText flag
  | .absent => return "null".toList
  | key => throw (.unsupportedKey (key.typeName store))

def ofLeaf (display : Nat → Value → Run Text) (depth : Nat) : Value → Run Json
  | .absent => return .null
  | .bool flag => return .bool flag
  | .integer n => if Numeral.exceedsLimit n then throw .wideInteger else return .integer n
  | .real bits => return .real bits
  | .text text => return .string text
  | .segments segments =>
    if Segment.heightAll segments ≤ depth then
      return .array ((Segment.debugTexts segments).map .string)
    else throw .debugTooDeep
  | .diagnostics diagnostics => return .array (diagnostics.map fun item => .string item.debugText)
  | value => return .string (← display depth value)

/-- The trees of the items of a sequence from an index on, at most `bound` of them. Each item is looked
up when its turn comes, since a text that is displayed may take later items away. -/
def encodeItems (encodeOne : Value → Run Json) (address : Address) :
    (bound : Nat) → (index : Nat) → Run (List Json)
  | 0, _ => return []
  | bound + 1, index => do
    match ← Run.item? address index with
    | some item =>
      let tree ← encodeOne item
      return tree :: (← encodeItems encodeOne address bound (index + 1))
    | none => return []

/-- The tree of a value of at most `depth` objects inside each other; `entered` are the containers it is
inside of, none of which may come again unless it has become empty. -/
def encodeFrom (display : Nat → Value → Run Text) :
    (depth : Nat) → (entered : List Address) → Value → Run Json
  | 0, _, .object _ => throw .encodingTooDeep
  | depth + 1, entered, .object address => do
    match ← Run.node? address with
    | some (.sequence flavour items) =>
      if !flavour.isArray then ofLeaf display (depth + 1) (.object address)
      else if items.isEmpty then return .array []
      else if entered.contains address then throw .circular
      else
        let encodeOne := encodeFrom display depth (address :: entered)
        return .array (← encodeItems encodeOne address items.length 0)
    | some (.mapping flavour entries) =>
      if !flavour.isJsonObject then ofLeaf display (depth + 1) (.object address)
      else if entered.contains address then throw .circular
      else
        let fields ← entries.mapM fun (key, item) => do
          let name ← Run.ofExcept (fieldName (← Run.store) key)
          let tree ← encodeFrom display depth (address :: entered) item
          return (name, tree)
        return .object fields
    | _ => ofLeaf display (depth + 1) (.object address)
  | depth, _, value => ofLeaf display depth value

def encode (display : Nat → Value → Run Text) (depth : Nat) (value : Value) : Run Json :=
  encodeFrom display depth [] value

end Json
end Stencil
