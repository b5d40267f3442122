import Stencil.Proofs.Run.Relation
import Stencil.Proofs.Segment.Source
import Stencil.Render

/-! Rendering on a stack of frames is the recursion on the segments: the same text and diagnostics, the
same failure, and the same effects in the same order. -/

namespace Stencil

open Segment

/-- Working off the first segments of the innermost frame renders them by recursion, then goes on with
the text and the diagnostics they gave. -/
theorem renderLoop_append (expand : Text → Run (Text × List Diagnostic)) (segments : List Segment) :
    ∀ rest written outer diagnostics,
      renderLoop expand (⟨segments ++ rest, written⟩ :: outer) diagnostics = (do
        let (text, own) ← renderAllWith expand segments
        renderLoop expand (⟨rest, written ++ text⟩ :: outer) (diagnostics ++ own)) := by
  induction segments using sequenceInduction with
  | nil => simp [renderAllWith]
  | literal text tail ih =>
      intro rest written outer diagnostics
      rw [List.cons_append, renderLoop, ih]
      simp [renderAllWith, renderWith]
  | placeholder children tail childrenIH tailIH =>
      intro rest written outer diagnostics
      have inner := childrenIH [] [] (⟨tail ++ rest, written⟩ :: outer) diagnostics
      rw [List.append_nil] at inner
      rw [List.cons_append, renderLoop, inner]
      simp [renderAllWith, renderWith, renderLoop, tailIH]

theorem renderLoop_eq_renderAllWith (expand : Text → Run (Text × List Diagnostic))
    (segments : List Segment) :
    renderLoop expand [⟨segments, []⟩] [] = (do
      let (text, diagnostics) ← renderAllWith expand segments
      return ⟨text, diagnostics⟩) := by
  have worked := renderLoop_append expand segments [] [] [] []
  rw [List.append_nil] at worked
  rw [worked]
  simp [renderLoop]

section

variable {Stage : Type} [Preorder Stage] {worlds : Stage → World → World → Prop}

theorem renderAllWith_alike {expand other : Text → Run (Text × List Diagnostic)}
    (segments : List Segment) : ∀ stage : Stage,
    (∀ later, stage ≤ later → ∀ expression,
      Run.Alike worlds later (expand expression) (other expression)) →
    Run.Alike worlds stage (renderAllWith expand segments) (renderAllWith other segments) := by
  induction segments using sequenceInduction with
  | nil =>
      intro stage _
      exact Run.Relates.pure rfl
  | literal text rest ih =>
      intro stage each
      have head : Run.Alike worlds stage ((Segment.literal text).renderWith expand)
          ((Segment.literal text).renderWith other) := Run.Relates.pure rfl
      refine Run.Relates.bind head ?_
      rintro later grown rendered _ rfl
      refine Run.Relates.bind (ih later fun last wider => each last (le_trans grown wider)) ?_
      rintro _ _ others _ rfl
      exact Run.Relates.pure rfl
  | placeholder children rest childrenIH restIH =>
      intro stage each
      have head : Run.Alike worlds stage ((Segment.placeholder children).renderWith expand)
          ((Segment.placeholder children).renderWith other) := by
        refine Run.Relates.bind (childrenIH stage each) ?_
        rintro later grown ⟨expression, inner⟩ _ rfl
        refine Run.Relates.bind (each later grown expression) ?_
        rintro _ _ given _ rfl
        exact Run.Relates.pure rfl
      refine Run.Relates.bind head ?_
      rintro later grown rendered _ rfl
      refine Run.Relates.bind (restIH later fun last wider => each last (le_trans grown wider)) ?_
      rintro _ _ others _ rfl
      exact Run.Relates.pure rfl

end

section

variable [Bodies] (reentry : Reentry) (settings : Settings) (binding : Value)

mutual

/-- What a segment gives, by recursion: a placeholder evaluates its children, resolves what they spell, and is
the text of the value that is found. -/
def Segment.evaluate : Segment → Run (Text × List Diagnostic)
  | .literal text => return (text, [])
  | .placeholder children => do
    let (expression, inner) ← Segment.evaluateAll children
    let value ← resolve reentry settings binding expression
    let kind := value.kind (← Run.store)
    let text ← value.coerce reentry
    if kind = .scalar ∨ kind = .absent then return (text, inner)
    else return (text, inner ++ [Diagnostic.of expression kind])

def Segment.evaluateAll : List Segment → Run (Text × List Diagnostic)
  | [] => return ([], [])
  | segment :: rest => do
    let (text, first) ← segment.evaluate
    let (others, later) ← Segment.evaluateAll rest
    return (text ++ others, first ++ later)

end

end

section

variable [Bodies]

end

end Stencil
