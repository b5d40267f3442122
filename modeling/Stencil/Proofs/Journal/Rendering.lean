import Stencil.Proofs.Journal.Accessors
import Stencil.Proofs.Render.Recursion
import Stencil.Template

/-! Writing values, resolving expressions, rendering and formatting take no notice of the journal either,
also where templates are formatted inside each other. -/

namespace Stencil

open Run Segment
open Run.IgnoresJournal (bind pure throw)

section

variable {reentry : Reentry}

theorem display_ignoresJournal (ignores : reentry.IgnoresJournal) (depth : Nat) (value : Value) :
    IgnoresJournal (value.display reentry depth) := by
  refine bind .store fun store => ?_
  split
  · unfold Template.display
    split
    · exact pure _
    · exact ignores.format _
  · exact .ofExcept _

namespace Json

variable {display : Nat → Value → Run Text}

theorem ofLeaf_ignoresJournal (ignores : ∀ depth value, IgnoresJournal (display depth value)) (depth : Nat)
    (value : Value) : IgnoresJournal (ofLeaf display depth value) := by
  unfold ofLeaf
  split
  · exact pure _
  · exact pure _
  · split
    · exact throw _
    · exact pure _
  · exact pure _
  · exact pure _
  · split
    · exact pure _
    · exact throw _
  · exact pure _
  · exact bind (ignores depth _) fun _ => pure _

theorem encodeItems_ignoresJournal {encodeOne : Value → Run Json}
    (ignores : ∀ value, IgnoresJournal (encodeOne value)) (address : Address) :
    ∀ bound index, IgnoresJournal (encodeItems encodeOne address bound index) := by
  intro bound
  induction bound with
  | zero =>
      intro index
      exact pure _
  | succ bound ih =>
      intro index
      have item : IgnoresJournal (Run.item? address index) := by
        refine bind (.node? address) fun node => ?_
        split <;> exact pure _
      refine bind item fun found => ?_
      split
      · exact bind (ignores _) fun _ => bind (ih _) fun _ => pure _
      · exact pure _

theorem encodeFrom_ignoresJournal (ignores : ∀ depth value, IgnoresJournal (display depth value)) :
    ∀ depth entered value, IgnoresJournal (encodeFrom display depth entered value) := by
  intro depth
  induction depth with
  | zero =>
      intro entered value
      cases value with
      | object => exact throw _
      | _ => exact ofLeaf_ignoresJournal ignores 0 _
  | succ depth ih =>
      intro entered value
      have leaf := ofLeaf_ignoresJournal ignores (depth + 1) value
      cases value with
      | object address =>
          refine bind (.node? address) fun node => ?_
          dsimp only
          split
          · split
            · exact leaf
            split
            · exact pure _
            split
            · exact throw _
            · exact bind (encodeItems_ignoresJournal (ih _) address _ _) fun _ => pure _
          · split
            · exact leaf
            split
            · exact throw _
            · refine bind (.mapM (fun entry => ?_) _) fun _ => pure _
              exact bind .store fun _ => bind (.ofExcept _) fun _ => bind (ih _ _) fun _ => pure _
          · exact leaf
      | _ => exact leaf

end Json

theorem coerce_ignoresJournal (ignores : reentry.IgnoresJournal) (value : Value) :
    IgnoresJournal (value.coerce reentry) := by
  have shown := display_ignoresJournal ignores
  have composite (depth : Nat) : IgnoresJournal (value.compositeText reentry depth) := by
    have encoded : IgnoresJournal (Json.encode (Value.display reentry) depth value) :=
      Json.encodeFrom_ignoresJournal shown depth [] value
    refine .tryCatch (bind encoded fun _ => pure _) fun failure => ?_
    split
    · exact shown depth value
    · exact throw failure
  unfold Value.coerce
  split
  · exact pure _
  · exact pure _
  · exact pure _
  · exact pure _
  · refine .world_bind fun known one other ⟨resembles, _⟩ => ?_
    rw [resembles.store, resembles.limit]
    split
    · exact composite _ known
    · exact composite _ known
    · exact shown _ value known
    · exact shown _ value known
    · exact shown _ value known

theorem stepAccessor_ignoresJournal (ignores : reentry.IgnoresJournal) (settings : Settings)
    (node : Value) (name expression : Text) :
    IgnoresJournal (stepAccessor reentry settings node name expression) := by
  refine bind .store fun store => ?_
  dsimp only
  split
  · exact fun _ => Relates.throw_bind _
  · refine bind (access_ignoresJournal ignores node name) fun found => ?_
    cases found with
    | value found => exact pure found
    | missing => exact throw _
    | needsArguments => exact throw _

theorem step_ignoresJournal (ignores : reentry.IgnoresJournal) (settings : Settings) (expression : Text)
    (node : Value) (key : Key) : IgnoresJournal (step reentry settings expression node key) := by
  unfold step
  split
  · exact bind .store fun _ => .ofExcept _
  · refine bind .store fun store => ?_
    split
    · exact pure _
    · exact stepAccessor_ignoresJournal ignores settings node key.raw expression
    · exact throw _

theorem walk_ignoresJournal (ignores : reentry.IgnoresJournal) (settings : Settings) (expression : Text)
    (node : Value) (keys : List Key) :
    IgnoresJournal (walk reentry settings expression node keys) :=
  .foldlM (step_ignoresJournal ignores settings expression) keys node

theorem resolve_ignoresJournal (ignores : reentry.IgnoresJournal) (settings : Settings)
    (binding : Value) (expression : Text) :
    IgnoresJournal (resolve reentry settings binding expression) :=
  bind (.ofExcept _) fun _ => bind (walk_ignoresJournal ignores settings expression binding _) fun _ =>
    bind .store fun _ => bind (.note _) fun _ => pure _

theorem renderExpression_ignoresJournal (ignores : reentry.IgnoresJournal) (settings : Settings)
    (binding : Value) (expression : Text) :
    IgnoresJournal (renderExpression reentry settings binding expression) :=
  bind (resolve_ignoresJournal ignores settings binding expression) fun value =>
    bind .store fun _ => bind (coerce_ignoresJournal ignores value) fun _ => pure _

theorem render_ignoresJournal (ignores : reentry.IgnoresJournal) (settings : Settings)
    (segments : List Segment) (binding : Value) :
    IgnoresJournal (render reentry settings segments binding) := by
  rw [render, renderLoop_eq_renderAllWith]
  refine bind (fun known => ?_) fun _ => pure _
  exact renderAllWith_alike segments known fun later _ expression =>
    renderExpression_ignoresJournal ignores settings binding expression later

theorem emit_ignoresJournal (settings : Settings) (diagnostic : Diagnostic) :
    IgnoresJournal (emit settings diagnostic) := by
  have warn : IgnoresJournal (do
      if (← Run.world).strict then throw (.nonScalar diagnostic.expression diagnostic.kind.word)
      else Run.note (.warning diagnostic.expression diagnostic.kind.word diagnostic.message)) := by
    refine .world_bind fun known one other ⟨resembles, _⟩ => ?_
    rw [resembles.strict]
    split
    · exact throw _ known
    · exact IgnoresJournal.note _ known
  unfold emit
  dsimp only
  split
  · refine bind (.note _) fun _ => ?_
    split
    · exact warn
    · exact pure _
  · split
    · exact warn
    · exact pure _

theorem format_ignoresJournal (ignores : reentry.IgnoresJournal) (settings : Settings)
    (segments : List Segment) (binding : Value) :
    IgnoresJournal (format reentry settings segments binding) :=
  bind (render_ignoresJournal ignores settings segments binding) fun _ =>
    bind (.forM (emit_ignoresJournal settings) _) fun _ => pure _

theorem ofDepth_ignoresJournal (depth : Nat) : (Reentry.ofDepth depth).IgnoresJournal := by
  have template (address : Address) : IgnoresJournal (Run.template address) := by
    refine bind (.node? address) fun node => ?_
    split
    · exact pure _
    · exact throw _
  induction depth with
  | zero => exact ⟨fun _ => throw _, fun _ => throw _⟩
  | succ depth ih =>
      constructor
      · intro address
        exact bind (template address) fun _ => bind (.ofExcept _) fun _ =>
          bind (inForce_ignoresJournal _) fun _ => format_ignoresJournal ih _ _ _
      · intro address
        exact bind (template address) fun _ => bind (.ofExcept _) fun _ =>
          bind (inForce_ignoresJournal _) fun _ => render_ignoresJournal ih _ _ _

end
end Stencil
