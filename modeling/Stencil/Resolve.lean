import Stencil.Accessor
import Stencil.Path
import Stencil.Settings.Load

/-! Walking a key expression through a binding: indices choose items of sequences, names choose entries
of mappings and accessors of records. -/

namespace Stencil
namespace Value

def length (store : Store) : Value → Nat
  | .range start stop step => rangeLength start stop step
  | .segments parts => parts.length
  | .diagnostics reports => reports.length
  | .object address =>
    match store[address]? with
    | some (.sequence _ items) => items.length
    | _ => 0
  | _ => 0

def item? (store : Store) (index : Nat) : Value → Option Value
  | .range start stop step =>
    if index < rangeLength start stop step then some (.integer (start + index * step)) else none
  | .segments parts => parts[index]?.map .segment
  | .diagnostics reports => reports[index]?.map .diagnostic
  | .object address =>
    match store[address]? with
    | some (.sequence _ items) => items[index]?
    | _ => none
  | _ => none

def entry? (store : Store) (name : Text) : Value → Option Value
  | .object address =>
    match store[address]? with
    | some (.mapping _ entries) => entries.lookup (.text name)
    | _ => none
  | _ => none

end Value

def stepIndex (store : Store) (node : Value) (key : Key) (index : Nat) (expression : Text) :
    Except Failure Value :=
  let kind := node.kind store
  if kind ≠ .sequence then
    throw (.typeMismatch key.raw expression Kind.sequence.word kind.word)
  else if greatestLength < node.length store then throw .lengthOverflow
  else match node.item? store index with
    | some item => return item
    | none => throw (.indexOutOfRange key.raw expression index (node.length store))

def expectedAccessor (name : Text) : Text :=
  "object with accessor '".toList ++ name ++ "'".toList

def expectedNoArguments : Text := "zero-argument accessor".toList

def actualMethod (typeName name : Text) : Text :=
  "method ".toList ++ typeName ++ ".".toList ++ name ++ " that takes arguments".toList

def expectedNamed : Text := "mapping or object".toList

def isPrivate (name : Text) : Bool :=
  name.startsWith '_'

section

variable [Bodies]

def stepAccessor (reentry : Reentry) (settings : Settings) (node : Value) (name expression : Text) :
    Run Value := do
  let typeName := node.typeName (← Run.store)
  if isPrivate name && !settings.allowPrivate then
    throw (.privateAccessor name expression typeName)
  match ← node.access reentry name with
  | .value found => return found
  | .missing => throw (.typeMismatch name expression (expectedAccessor name) typeName)
  | .needsArguments =>
    throw (.typeMismatch name expression expectedNoArguments (actualMethod typeName name))

/-- A name that a mapping lacks gives nothing, and leaves the mapping as it is. -/
def stepName (reentry : Reentry) (settings : Settings) (node : Value) (name expression : Text) :
    Run Value := do
  let store ← Run.store
  match node.kind store with
  | .mapping => return (node.entry? store name).getD .absent
  | .record => stepAccessor reentry settings node name expression
  | kind => throw (.typeMismatch name expression expectedNamed kind.word)

def step (reentry : Reentry) (settings : Settings) (expression : Text) (node : Value) (key : Key) :
    Run Value := do
  match key.index with
  | some index => Run.ofExcept (stepIndex (← Run.store) node key index expression)
  | none => stepName reentry settings node key.raw expression

def walk (reentry : Reentry) (settings : Settings) (expression : Text) (node : Value)
    (keys : List Key) : Run Value :=
  keys.foldlM (step reentry settings expression) node

theorem walk_nil (reentry : Reentry) (settings : Settings) (expression : Text) (node : Value) :
    walk reentry settings expression node [] = pure node := by
  simp [walk]

theorem walk_append (reentry : Reentry) (settings : Settings) (expression : Text) (node : Value)
    (first later : List Key) :
    walk reentry settings expression node (first ++ later) = (do
      let middle ← walk reentry settings expression node first
      walk reentry settings expression middle later) := by
  simp [walk]

/-- The value that a key expression finds in a binding. All keys are read before the first step. -/
def resolve (reentry : Reentry) (settings : Settings) (binding : Value) (expression : Text) :
    Run Value := do
  let parsed ← Run.ofExcept (Expression.parse expression)
  let found ← walk reentry settings expression binding parsed.keys
  let kind := found.kind (← Run.store)
  Run.log .debug .resolver
    ("Resolved '".toList ++ expression ++ "' to ".toList ++ kind.word ++ " value".toList)
  return found

def resolveUnder [Libraries] (reentry : Reentry) (own : Option Settings) (binding : Value)
    (expression : Text) : Run Value := do
  let settings ← Settings.inForce own
  resolve reentry settings binding expression

end
end Stencil
