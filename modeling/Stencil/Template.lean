import Stencil.Render
import Stencil.Segment.Compile

/-! Templates: a text compiled once, with a default binding that can be replaced and settings that may
be left to the process default. -/

namespace Stencil

def compileNoted (text : Text) : Run (List Segment) := do
  let segments := compile text
  Run.log .debug .compiler
    ("Compiled template into ".toList ++ Numeral.ofNat segments.length ++ " top-level segments".toList)
  return segments

namespace Template

/-- Replaces the default binding; an absent one removes it, and a value that cannot be bound is refused. -/
def rebind (template : Template) (store : Store) (binding : Value) : Except Failure Template :=
  if binding = .absent then return { template with binding := .absent }
  else if binding.bindable store then return { template with binding }
  else throw (.invalidBinding (binding.typeName store))

def create (text binding : Value) (settings : Option Settings) : Run Template := do
  match text with
  | .text text =>
    let template : Template := ⟨text, ← compileNoted text, .absent, settings⟩
    if binding = .absent then return template
    else Run.ofExcept (template.rebind (← Run.store) binding)
  | other => throw (.invalidTemplate (other.typeName (← Run.store)))

def selectBinding (template : Template) (binding : Value) : Except Failure Value :=
  if binding ≠ .absent then return binding
  else if template.binding ≠ .absent then return template.binding
  else throw Failure.bindingRequired

variable [Libraries] [Bodies]

def formatWith (template : Template) (reentry : Reentry) (binding : Value) : Run Text := do
  let binding ← Run.ofExcept (template.selectBinding binding)
  let settings ← Settings.inForce template.settings
  format reentry settings template.segments binding

def renderWith (template : Template) (reentry : Reentry) (binding : Value) : Run Rendering := do
  let binding ← Run.ofExcept (template.selectBinding binding)
  let settings ← Settings.inForce template.settings
  Stencil.render reentry settings template.segments binding

def shownWith (template : Template) (reentry : Reentry) : Run Text :=
  if template.binding = .absent then return template.text
  else template.formatWith reentry template.binding

end Template

namespace Run

def template (address : Address) : Run Template := do
  match ← node? address with
  | some (.template template) => return template
  | _ => throw (.invalidTemplate "object".toList)

end Run

namespace Reentry

/-- Formatting down to `depth` templates inside each other. -/
def ofDepth [Libraries] [Bodies] : (depth : Nat) → Reentry
  | 0 => ⟨fun _ => throw (.nestedTooDeep []), fun _ => throw (.nestedTooDeep [])⟩
  | depth + 1 =>
    { format := fun address => do (← Run.template address).formatWith (ofDepth depth) .absent
      render := fun address => do (← Run.template address).renderWith (ofDepth depth) .absent }

end Reentry

namespace Template

inductive Request where
  | bind (binding : Value)
  | format (binding : Value)
  | render (binding : Value)
  | interpolate (binding : Value)
  | modulo (binding : Value)
  | rightModulo (left : Value)
  | shown
deriving DecidableEq

inductive Reply where
  | itself
  | text (text : Text)
  | rendering (rendering : Rendering)
deriving DecidableEq

def construct (text binding : Value) (settings : Option Settings) : Run Value := do
  Run.allocate (.template (← create text binding settings))

def bindAt (address : Address) (binding : Value) : Run Unit := do
  let bound ← Run.ofExcept ((← Run.template address).rebind (← Run.store) binding)
  Run.setNode address (.template bound)

section

variable [Libraries] [Bodies]

def formatAt (reentry : Reentry) (address : Address) (binding : Value) : Run Text := do
  (← Run.template address).formatWith reentry binding

def renderAt (reentry : Reentry) (address : Address) (binding : Value) : Run Rendering := do
  (← Run.template address).renderWith reentry binding

def interpolateAt (reentry : Reentry) (address : Address) (binding : Value) : Run Text :=
  formatAt reentry address binding

def moduloAt (reentry : Reentry) (address : Address) (binding : Value) : Run Text :=
  interpolateAt reentry address binding

def rightModulo (_left : Value) : Run Text :=
  throw .rightOperand

def shownAt (reentry : Reentry) (address : Address) : Run Text := do
  (← Run.template address).shownWith reentry

def perform (reentry : Reentry) (address : Address) : Request → Run Reply
  | .bind binding => do
    bindAt address binding
    return .itself
  | .format binding => return .text (← formatAt reentry address binding)
  | .render binding => return .rendering (← renderAt reentry address binding)
  | .interpolate binding => return .text (← interpolateAt reentry address binding)
  | .modulo binding => return .text (← moduloAt reentry address binding)
  | .rightModulo left => return .text (← rightModulo left)
  | .shown => return .text (← shownAt reentry address)

end
end Template
end Stencil
