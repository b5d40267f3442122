import Stencil.Coerce
import Stencil.Resolve

/-! Rendering segments against a binding. The children of a placeholder are rendered first and spell its
key expression; the text that a value gives is never searched for placeholders. -/

namespace Stencil

/-- The text of the value that an expression finds, and a diagnostic if it is no scalar. -/
def renderExpression [Bodies] (reentry : Reentry) (settings : Settings) (binding : Value) (expression : Text) :
    Run (Text × List Diagnostic) := do
  let value ← resolve reentry settings binding expression
  let kind := value.kind (← Run.store)
  let text ← value.coerce reentry
  return (text, if kind.isScalar then [] else [Diagnostic.of expression kind])

namespace Segment

mutual

def renderWith (expand : Text → Run (Text × List Diagnostic)) :
    Segment → Run (Text × List Diagnostic)
  | .literal text => return (text, [])
  | .placeholder children => do
    let (expression, inner) ← renderAllWith expand children
    let (text, own) ← expand expression
    return (text, inner ++ own)

def renderAllWith (expand : Text → Run (Text × List Diagnostic)) :
    List Segment → Run (Text × List Diagnostic)
  | [] => return ([], [])
  | segment :: rest => do
    let (text, first) ← segment.renderWith expand
    let (others, later) ← renderAllWith expand rest
    return (text ++ others, first ++ later)

end

end Segment

structure RenderFrame where
  rest : List Segment
  written : Text

def RenderFrame.weights (frames : List RenderFrame) : Nat :=
  Segment.pendingWeight (frames.map RenderFrame.rest)

/-- Renders on a stack of frames, innermost first; the diagnostics of the run so far come along. -/
def renderLoop (expand : Text → Run (Text × List Diagnostic)) :
    List RenderFrame → List Diagnostic → Run Rendering
  | [], diagnostics => return ⟨[], diagnostics⟩
  | [⟨[], written⟩], diagnostics => return ⟨written, diagnostics⟩
  | ⟨[], written⟩ :: ⟨rest, before⟩ :: outer, diagnostics => do
    let (text, own) ← expand written
    renderLoop expand (⟨rest, before ++ text⟩ :: outer) (diagnostics ++ own)
  | ⟨.literal text :: rest, written⟩ :: outer, diagnostics =>
    renderLoop expand (⟨rest, written ++ text⟩ :: outer) diagnostics
  | ⟨.placeholder children :: rest, written⟩ :: outer, diagnostics =>
    renderLoop expand (⟨children, []⟩ :: ⟨rest, written⟩ :: outer) diagnostics
termination_by frames => RenderFrame.weights frames
decreasing_by
  all_goals
    simp [RenderFrame.weights, Segment.pendingWeight, Segment.weightAll, Segment.weight]
  all_goals omega

def render [Bodies] (reentry : Reentry) (settings : Settings) (segments : List Segment) (binding : Value) :
    Run Rendering :=
  renderLoop (renderExpression reentry settings binding) [⟨segments, []⟩] []

/-- Tells a diagnostic by a log line and a warning, as far as the settings ask for them. Under strict
warnings the first warning is a failure. -/
def emit (settings : Settings) (diagnostic : Diagnostic) : Run Unit := do
  if settings.logNonScalar then Run.log .warning .formatter diagnostic.message
  if settings.emitWarnings then
    let kind := diagnostic.kind.word
    if (← Run.world).strict then throw (.nonScalar diagnostic.expression kind)
    else Run.note (.warning diagnostic.expression kind diagnostic.message)

def format [Bodies] (reentry : Reentry) (settings : Settings) (segments : List Segment) (binding : Value) :
    Run Text := do
  let rendering ← render reentry settings segments binding
  rendering.diagnostics.forM (emit settings)
  return rendering.text

end Stencil
