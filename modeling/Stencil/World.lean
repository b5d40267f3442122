import Stencil.Environment
import Stencil.Operation
import Stencil.Value

/-! The world that a run reads and changes, and the journal of what it does. -/

namespace Stencil

inductive Callee where
  | member (blueprint : Address) (name : Text)
  | unbound (blueprint : Address) (name : Text)
  | selfless (typeName name : Text)
  | routine (address : Address)
  | builtin (address : Address)
  | source (segment : Segment)
  | format (template : Address)
  | render (template : Address)
  | rebind (template : Address)
  | operation (receiver : Value) (operation : Operation)
  | lacksArguments (receiver : Value) (name : Text)
deriving DecidableEq

inductive Level where
  | debug
  | warning
deriving DecidableEq

inductive Channel where
  | compiler
  | settings
  | resolver
  | formatter
deriving DecidableEq

inductive Event where
  | log (level : Level) (channel : Channel) (message : Text)
  | warning (expression kind message : Text)
  | read (owner : Value) (name : Text)
  | called (callee : Callee)
deriving DecidableEq

/-- `settings` is the process default, once it is known; under `strict` a warning is a failure. A text can
be made of at most `limit` objects inside each other. -/
structure World where
  store : Store
  environment : Environment
  settings : Option Settings
  strict : Bool
  limit : Nat
  journal : List Event

namespace World

def empty : World := ⟨#[], [], none, false, 1000, []⟩

end World

/-- A run may fail; what it did to the world until then stays. -/
abbrev Run := ExceptT Failure (StateM World)

namespace Run

def note (event : Event) : Run Unit :=
  modify fun world => { world with journal := world.journal ++ [event] }

def log (level : Level) (channel : Channel) (message : Text) : Run Unit :=
  note (.log level channel message)

def world : Run World :=
  get

def store : Run Store :=
  return (← world).store

def node? (address : Address) : Run (Option Node) :=
  return (← store)[address]?

def item? (address : Address) (index : Nat) : Run (Option Value) := do
  match ← node? address with
  | some (.sequence _ items) => return items[index]?
  | _ => return none

def setNode (address : Address) (node : Node) : Run Unit :=
  modify fun world => { world with store := world.store.setIfInBounds address node }

def allocate (node : Node) : Run Value := do
  let address := (← store).size
  modify fun world => { world with store := world.store.push node }
  return .object address

def setVariable (name value : Text) : Run Unit :=
  modify fun world => { world with environment := world.environment.set name value }

def unsetVariable (name : Text) : Run Unit :=
  modify fun world => { world with environment := world.environment.erase name }

def ofExcept {α : Type} : Except Failure α → Run α
  | .ok value => pure value
  | .error failure => throw failure

end Run
end Stencil
