import Stencil.Value.MappingKey
import Stencil.Value.Written

/-! Changing the lists and mappings in the store: entries set and erased, items appended. -/

namespace Stencil

namespace Entries

def put (store : Store) (key value : Value) : List (Value × Value) → List (Value × Value)
  | [] => [(key, value)]
  | entry :: rest =>
    if entry.1.sameKey store key then (entry.1, value) :: rest
    else entry :: put store key value rest

def has (store : Store) (key : Value) (entries : List (Value × Value)) : Bool :=
  entries.any (·.1.sameKey store key)

def erase (store : Store) (key : Value) (entries : List (Value × Value)) : List (Value × Value) :=
  entries.filter (!·.1.sameKey store key)

end Entries

def index? : Value → Option Int
  | .bool flag => some (if flag then 1 else 0)
  | .integer n => some n
  | _ => none

def positionOf (length : Nat) (index : Int) : Option Nat :=
  let position := if index < 0 then index + length else index
  if 0 ≤ position ∧ position < length then some position.toNat else none

def indexTooWide : Failure :=
  .badItem .index "cannot fit 'int' into an index-sized integer".toList

def isTooWide (index : Int) : Bool :=
  index < -(greatestLength + 1 : Int) || (greatestLength : Int) < index

def lacksAssignment (typeName : Text) : Failure :=
  .badItem .type (quotedType typeName ++ " object does not support item assignment".toList)

def lacksDeletion (typeName : Text) : Failure :=
  .badItem .type (quotedType typeName ++ " object does not support item deletion".toList)

def lacksIndexDeletion (typeName : Text) : Failure :=
  .badItem .type (quotedType typeName ++ " object doesn't support item deletion".toList)

def refusesAssignment (typeName : Text) (key : Value) : Failure :=
  match index? key with
  | some index => if isTooWide index then indexTooWide else lacksAssignment typeName
  | none => lacksAssignment typeName

def refusesDeletion (typeName : Text) (key : Value) : Failure :=
  match index? key with
  | some index => if isTooWide index then indexTooWide else lacksIndexDeletion typeName
  | none => lacksDeletion typeName

def lacksAppend (typeName : Text) : Failure :=
  .badItem .attribute (quotedType typeName ++ " object has no attribute 'append'".toList)

def outsideSequence (flavour : SequenceFlavour) : Failure :=
  match flavour with
  | .deque => .badItem .index "deque index out of range".toList
  | .list | .tuple | .named _ _ => .badItem .index "list assignment index out of range".toList

def noIndex (flavour : SequenceFlavour) (typeName : Text) : Failure :=
  match flavour with
  | .deque => .badItem .type ("sequence index must be integer, not ".toList ++ quotedType typeName)
  | .list | .tuple | .named _ _ =>
    .badItem .type ("list indices must be integers or slices, not ".toList ++ typeName)

def MappingFlavour.changeable : MappingFlavour → Bool
  | .plain | .ordered | .defaulting _ => true
  | .readOnly => false

def choosePosition (flavour : SequenceFlavour) (items : List Value) (store : Store) (key : Value) :
    Except Failure Nat :=
  match index? key with
  | none => throw (noIndex flavour (key.fullTypeName store))
  | some index =>
    if isTooWide index then throw indexTooWide
    else match positionOf items.length index with
      | some position => return position
      | none => throw (outsideSequence flavour)

namespace Node

def setItem (store : Store) (key value : Value) (node : Node) : Except Failure Node :=
  match node with
  | .sequence flavour items =>
    if flavour.changeable then
      return .sequence flavour (items.set (← choosePosition flavour items store key) value)
    else throw (refusesAssignment node.fullTypeName key)
  | .mapping flavour entries =>
    if flavour.changeable then do
      key.checkKey store
      return .mapping flavour (Entries.put store key value entries)
    else throw (refusesAssignment node.fullTypeName key)
  | _ => throw (refusesAssignment node.fullTypeName key)

def eraseItem (depth : Nat) (store : Store) (key : Value) (node : Node) : Except Failure Node :=
  match node with
  | .sequence flavour items =>
    if flavour.changeable then
      return .sequence flavour (items.eraseIdx (← choosePosition flavour items store key))
    else throw (refusesDeletion node.fullTypeName key)
  | .mapping flavour entries =>
    if flavour.changeable then do
      key.checkKey store
      if Entries.has store key entries then
        return .mapping flavour (Entries.erase store key entries)
      else throw (.badItem .lookup (← key.debugText store depth))
    else throw (refusesDeletion node.fullTypeName key)
  | _ => throw (refusesDeletion node.fullTypeName key)

def append (value : Value) (node : Node) : Except Failure Node :=
  match node with
  | .sequence flavour items =>
    if flavour.changeable then return .sequence flavour (items ++ [value])
    else throw (lacksAppend node.fullTypeName)
  | _ => throw (lacksAppend node.fullTypeName)

end Node

namespace Run

def edit (target : Value) (change : Store → Node → Except Failure Node) : Run Unit := do
  let store ← store
  match target with
  | .object address =>
    match store[address]? with
    | some node => setNode address (← ofExcept (change store node))
    | none => throw (lacksAssignment (target.fullTypeName store))
  | _ => throw (lacksAssignment (target.fullTypeName store))

end Run
end Stencil
