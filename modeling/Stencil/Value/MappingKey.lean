import Stencil.Value.Classify

/-! Values as keys of mappings: which values can be keys, and which keys are the same. A key may not
change, and numbers are the same key whatever their form if they are equal. -/

namespace Stencil

def quotedType (typeName : Text) : Text :=
  '\'' :: (typeName ++ ['\''])

def SequenceFlavour.changeable : SequenceFlavour → Bool
  | .list | .deque => true
  | .tuple | .named _ _ => false

namespace Value

def refusesKey (typeName : Text) : Failure :=
  .badItem .type ("unhashable type: ".toList ++ quotedType typeName)

def refusesSignal : Failure :=
  .badItem .type "Cannot hash a signaling NaN value".toList

def isSignal (numeral : Text) : Bool :=
  numeral.contains 's'

/-- Fails on what cannot be a key: objects that change, alone or within tuples down to `depth`. -/
def checkKeyFrom (store : Store) : (depth : Nat) → Value → Except Failure Unit
  | 0, .object _ => throw (.nestedTooDeep [])
  | depth + 1, .object address => do
    let typeName := (object address).fullTypeName store
    match store[address]? with
    | some (.sequence flavour items) =>
      if flavour.changeable then throw (refusesKey typeName)
      else items.forM (checkKeyFrom store depth)
    | some (.mapping _ _) | some (.set false _) => throw (refusesKey typeName)
    | _ => return ()
  | _, .decimal numeral => if isSignal numeral then throw refusesSignal else return ()
  | _, .byteArray octets => throw (refusesKey ((byteArray octets).fullTypeName store))
  | _, .diagnostics reports => throw (refusesKey ((diagnostics reports).fullTypeName store))
  | _, _ => return ()

def checkKey (store : Store) (key : Value) : Except Failure Unit :=
  checkKeyFrom store (store.size + 1) key

def parts? : Value → Option (Quantity × Quantity)
  | .bool flag => some (Quantity.ofInt (if flag then 1 else 0), .zero)
  | .integer n => some (Quantity.ofInt n, .zero)
  | .real bits => some (Quantity.ofBits bits, .zero)
  | .complex re im => some (Quantity.ofBits re, Quantity.ofBits im)
  | .decimal numeral => some (Quantity.ofNumeral numeral, .zero)
  | .fraction numerator denominator => some (Quantity.ofRatio numerator denominator, .zero)
  | _ => none

def sameRange (start stop step start' stop' step' : Int) : Bool :=
  let length := rangeLength start stop step
  length = rangeLength start' stop' step' &&
    (length = 0 || start = start' && (length = 1 || step = step'))

/-- Values that are no objects are the same if they are equal as numbers, or have the same content.
Handles are objects of their own whose content is not known. -/
def sameImmediate (left right : Value) : Bool :=
  match left, right with
  | .range start stop step, .range start' stop' step' => sameRange start stop step start' stop' step'
  | .handle _, .handle _ => false
  | _, _ =>
    match left.parts?, right.parts? with
    | some (re, im), some (re', im') => re.same re' && im.same im'
    | _, _ => left = right

end Value

namespace Node

def sameKey (same : Value → Value → Bool) : Node → Node → Bool
  | .sequence flavour items, .sequence flavour' items' =>
    !flavour.changeable && !flavour'.changeable && items.length = items'.length &&
      (items.zip items').all fun (left, right) => same left right
  | .set true items, .set true items' =>
    items.length = items'.length && items.all fun left => items'.any fun right => same left right
  | .builtin self, .builtin self' => self = self'
  | _, _ => false

end Node

namespace Value

def sameKeyFrom (store : Store) : (depth : Nat) → Value → Value → Bool
  | 0, .object left, .object right => left = right
  | depth + 1, .object left, .object right =>
    left = right ||
      match store[left]?, store[right]? with
      | some node, some node' => node.sameKey (sameKeyFrom store depth) node'
      | _, _ => false
  | _, left, right => sameImmediate left right

def sameKey (store : Store) (left right : Value) : Bool :=
  sameKeyFrom store (store.size + 1) left right

end Value
end Stencil
