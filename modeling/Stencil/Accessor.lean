import Stencil.Accessor.Reading
import Stencil.Reentry
import Stencil.Value.Classify

/-! Reading the accessors of records, and calling those that are routines without arguments. -/

namespace Stencil

inductive Accessor where
  | missing
  | needsArguments
  | value (value : Value)
deriving DecidableEq

/-- The code behind accessors: what runs when one is read, and what runs when a routine is called. Either may
change the world as it likes, fail at any point, and use other accessors. -/
class Bodies where
  read : Value → Text → Run Reading
  call : Reentry → Callee → Run Value

def Blueprint.find? (blueprint : Blueprint) (name : Text) : Option Member :=
  blueprint.members.find? (·.name = name)

namespace Callee

def takesNoArguments (store : Store) : Callee → Bool
  | .member address name =>
    match store[address]? with
    | some (.blueprint blueprint) =>
      match blueprint.find? name with
      | some found => found.parameters.all Parameter.omittable
      | none => true
    | _ => true
  | .unbound _ _ | .rebind _ | .lacksArguments _ _ => false
  | .routine address | .builtin address => Value.takesNoArguments store (.object address)
  | .selfless _ _ | .source _ | .format _ | .render _ | .operation _ _ => true

end Callee

def Run.reading (value : Value) : Run Reading := do
  match value with
  | .object address =>
    match ← node? address with
    | some (.routine _) => return .callable (.routine address)
    | some (.builtin _) => return .callable (.builtin address)
    | _ => return .value value
  | _ => return .value value

def Reading.settle : Reading → Run Reading
  | .value found => Run.reading found
  | reading => return reading

namespace Value

variable [Bodies]

def lookUp (value : Value) (name : Text) : Run Reading :=
  tryCatch (Bodies.read value name) fun failure =>
    if failure.fault? = some .attribute then return .missing else throw failure

/-- Reads an accessor; a routine that needs no arguments is called, once, and what it gives is final. -/
def access (value : Value) (reentry : Reentry) (name : Text) : Run Accessor := do
  Run.note (.read value name)
  match ← (← value.lookUp name).settle with
  | .missing => return .missing
  | .value found => return .value found
  | .callable callee =>
    if callee.takesNoArguments (← Run.store) then
      Run.note (.called callee)
      return .value (← Bodies.call reentry callee)
    else return .needsArguments

end Value
end Stencil
