import Stencil.Proofs.Render.Reports

/-! What the settings can change. How diagnostics are told never enters a result, unless the program has
turned warnings into failures; and private accessors are guarded by nothing but their refusal, so that
allowing them changes only the runs that were refused one. -/

namespace Stencil

open Run Segment

def Failure.refusesPrivate : Failure → Bool
  | .privateAccessor _ _ _ => true
  | _ => false

section

variable {α β : Type}

/-- The first run is refused a private accessor, or both runs come to the same end. -/
def Run.RefusedOr (guarded unguarded : Run α) : Prop :=
  ∀ world,
    (∃ failure, (guarded.outcome world).1 = .error failure ∧ failure.refusesPrivate = true) ∨
      guarded.outcome world = unguarded.outcome world

namespace Run.RefusedOr

theorem refl (action : Run α) : RefusedOr action action :=
  fun _ => Or.inr rfl

theorem bind {guarded unguarded : Run α} {next after : α → Run β} (head : RefusedOr guarded unguarded)
    (tail : ∀ value, RefusedOr (next value) (after value)) :
    RefusedOr (guarded >>= next) (unguarded >>= after) := by
  intro world
  rw [outcome_bind, outcome_bind]
  rcases head world with ⟨failure, refused, kind⟩ | same
  · left
    refine ⟨failure, ?_, kind⟩
    generalize guarded.outcome world = ended at *
    obtain ⟨result, reached⟩ := ended
    cases refused
    rfl
  · rw [same]
    generalize unguarded.outcome world = ended
    obtain ⟨result, reached⟩ := ended
    cases result with
    | error failure => exact Or.inr rfl
    | ok value => exact tail value reached

theorem foldlM {step other : α → β → Run α}
    (each : ∀ value item, RefusedOr (step value item) (other value item)) (items : List β) :
    ∀ first, RefusedOr (items.foldlM step first) (items.foldlM other first) := by
  induction items with
  | nil =>
      intro first
      exact refl _
  | cons item rest ih =>
      intro first
      rw [List.foldlM_cons, List.foldlM_cons]
      exact bind (each first item) ih

end Run.RefusedOr
end

section

variable {first second : Settings}

theorem stepAccessor_eq (same : first.allowPrivate = second.allowPrivate) (reentry : Reentry)
    (node : Value) (name expression : Text) :
    stepAccessor reentry first node name expression =
      stepAccessor reentry second node name expression := by
  simp only [stepAccessor, same]

theorem render_eq (same : first.allowPrivate = second.allowPrivate) (reentry : Reentry)
    (segments : List Segment) (binding : Value) :
    render reentry first segments binding = render reentry second segments binding := by
  have stepped (expression : Text) : step reentry first expression = step reentry second expression := by
    funext node key
    simp only [step, stepName, stepAccessor_eq same]
  have expanded : renderExpression reentry first binding = renderExpression reentry second binding := by
    funext expression
    simp only [renderExpression, resolve, walk, stepped]
  simp only [render, expanded]

theorem stepAccessor_refusedOr (guarded : first.allowPrivate = false) (reentry : Reentry)
    (node : Value) (name expression : Text) :
    RefusedOr (stepAccessor reentry first node name expression)
      (stepAccessor reentry second node name expression) := by
  intro world
  cases hidden : isPrivate name with
  | true =>
      left
      refine ⟨.privateAccessor name expression (node.typeName world.store), ?_, rfl⟩
      simp only [stepAccessor, hidden, guarded]
      rfl
  | false =>
      right
      simp only [stepAccessor, hidden, Bool.false_and]

theorem step_refusedOr (guarded : first.allowPrivate = false) (reentry : Reentry) (expression : Text)
    (node : Value) (key : Key) :
    RefusedOr (step reentry first expression node key) (step reentry second expression node key) := by
  unfold step
  split
  · exact RefusedOr.refl _
  · refine RefusedOr.bind (RefusedOr.refl Run.store) ?_
    intro store
    cases node.kind store with
    | record => exact stepAccessor_refusedOr guarded reentry node key.raw expression
    | _ => exact RefusedOr.refl _

theorem renderExpression_refusedOr (guarded : first.allowPrivate = false) (reentry : Reentry)
    (binding : Value) (expression : Text) :
    RefusedOr (renderExpression reentry first binding expression)
      (renderExpression reentry second binding expression) := by
  have resolved : RefusedOr (resolve reentry first binding expression)
      (resolve reentry second binding expression) := by
    refine RefusedOr.bind (RefusedOr.refl _) ?_
    intro parsed
    refine RefusedOr.bind ?_ fun _ => RefusedOr.refl _
    exact RefusedOr.foldlM (step_refusedOr guarded reentry expression) parsed.keys binding
  exact RefusedOr.bind resolved fun _ => RefusedOr.refl _

theorem renderAllWith_refusedOr {expand other : Text → Run (Text × List Diagnostic)}
    (each : ∀ expression, RefusedOr (expand expression) (other expression)) (segments : List Segment) :
    RefusedOr (renderAllWith expand segments) (renderAllWith other segments) := by
  induction segments using sequenceInduction with
  | nil => exact RefusedOr.refl _
  | literal text rest ih =>
      refine RefusedOr.bind (RefusedOr.refl (pure (text, []))) ?_
      intro _
      exact RefusedOr.bind ih fun _ => RefusedOr.refl _
  | placeholder children rest childrenIH restIH =>
      have head : RefusedOr ((Segment.placeholder children).renderWith expand)
          ((Segment.placeholder children).renderWith other) := by
        refine RefusedOr.bind childrenIH ?_
        rintro ⟨expression, _⟩
        exact RefusedOr.bind (each expression) fun _ => RefusedOr.refl _
      refine RefusedOr.bind head ?_
      intro _
      exact RefusedOr.bind restIH fun _ => RefusedOr.refl _

theorem render_refusedOr (guarded : first.allowPrivate = false) (reentry : Reentry)
    (segments : List Segment) (binding : Value) :
    RefusedOr (render reentry first segments binding) (render reentry second segments binding) := by
  rw [render, render, renderLoop_eq_renderAllWith, renderLoop_eq_renderAllWith]
  refine RefusedOr.bind (renderAllWith_refusedOr ?_ segments) fun _ => RefusedOr.refl _
  exact renderExpression_refusedOr guarded reentry binding

end

theorem exists_outcome_emit (settings : Settings) (diagnostic : Diagnostic) (world : World) :
    ∃ after, after.strict = world.strict ∧
      (emit settings diagnostic).outcome world =
        (if world.strict && settings.emitWarnings then
            .error (.nonScalar diagnostic.expression diagnostic.kind.word)
          else .ok (), after) := by
  obtain ⟨warns, logs, _⟩ := settings
  obtain ⟨store, environment, default, strict, journal⟩ := world
  cases strict <;> cases warns <;> cases logs <;>
    simp [emit, Run.log, outcome_note, outcome_bind, outcome_world]

theorem result_forM_emit (settings : Settings) (diagnostics : List Diagnostic) :
    ∀ world, ((diagnostics.forM (emit settings)).outcome world).1 =
      match diagnostics.head?, world.strict && settings.emitWarnings with
      | some diagnostic, true => .error (.nonScalar diagnostic.expression diagnostic.kind.word)
      | _, _ => .ok () := by
  induction diagnostics with
  | nil =>
      intro world
      rfl
  | cons diagnostic rest ih =>
      intro world
      obtain ⟨after, kept, told⟩ := exists_outcome_emit settings diagnostic world
      rw [List.forM, outcome_bind, told]
      cases stops : world.strict && settings.emitWarnings with
      | true => rfl
      | false =>
          have later := ih after
          rw [kept, stops] at later
          simpa using later

section

variable {first second : Settings}

theorem strict_render (depth : Nat) (settings : Settings) (segments : List Segment) (binding : Value)
    (world : World) :
    ((render (.ofDepth depth) settings segments binding).outcome world).2.strict = world.strict := by
  have within : binding.In (Scene.whole world) := fun _ _ => trivial
  obtain ⟨later, reached, left, _⟩ := render_leads (ofDepth_passes depth) settings segments within
  exact (congrArg World.strict left).trans reached.2.strict

theorem result_format_eq (same : first.allowPrivate = second.allowPrivate) (depth : Nat)
    (segments : List Segment) (binding : Value) {world : World}
    (lenient : world.strict = false ∨ first.emitWarnings = second.emitWarnings) :
    ((format (.ofDepth depth) first segments binding).outcome world).1 =
      ((format (.ofDepth depth) second segments binding).outcome world).1 := by
  have strict := strict_render depth second segments binding world
  unfold format
  rw [render_eq same, outcome_bind, outcome_bind]
  generalize (render (.ofDepth depth) second segments binding).outcome world = ended at *
  obtain ⟨result, after⟩ := ended
  cases result with
  | error failure => rfl
  | ok rendering =>
      have told : ((rendering.diagnostics.forM (emit first)).outcome after).1 =
          ((rendering.diagnostics.forM (emit second)).outcome after).1 := by
        rw [result_forM_emit, result_forM_emit, show after.strict = world.strict from strict]
        rcases lenient with lenient | warns
        · rw [lenient]
          rfl
        · rw [warns]
      dsimp only
      rw [outcome_bind, outcome_bind]
      generalize (rendering.diagnostics.forM (emit first)).outcome after = one at *
      generalize (rendering.diagnostics.forM (emit second)).outcome after = other at *
      obtain ⟨result, _⟩ := one
      obtain ⟨_, _⟩ := other
      cases told
      cases result <;> rfl

/-- Settings with the same guard of private accessors render alike in everything, and format to the same
text or failure unless a warning is a failure. Whatever a run with the guard comes to, other than a
refusal, it comes to without the guard as well, with the same accessors evaluated. -/
theorem settings_matter_only_by_refusal :
    (∀ first second : Settings, first.allowPrivate = second.allowPrivate →
      ∀ segments binding,
        (∀ reentry, render reentry first segments binding = render reentry second segments binding) ∧
          ∀ depth world, world.strict = false ∨ first.emitWarnings = second.emitWarnings →
            ((format (.ofDepth depth) first segments binding).outcome world).1 =
              ((format (.ofDepth depth) second segments binding).outcome world).1) ∧
      ∀ guarded : Settings, guarded.allowPrivate = false →
        ∀ reentry segments binding world,
          ((∀ failure, ((render reentry guarded segments binding).outcome world).1 = .error failure →
              failure.refusesPrivate = false) →
            ∀ unguarded : Settings, unguarded.allowPrivate = true →
              (render reentry unguarded segments binding).outcome world =
                (render reentry guarded segments binding).outcome world) ∧
          ((∀ failure, ((format reentry guarded segments binding).outcome world).1 = .error failure →
              failure.refusesPrivate = false) →
            (format reentry { guarded with allowPrivate := true } segments binding).outcome world =
              (format reentry guarded segments binding).outcome world) := by
  have unrefused {α : Type} {one other : Run α} (either : RefusedOr one other) {world : World}
      (passed : ∀ failure, (one.outcome world).1 = .error failure → failure.refusesPrivate = false) :
      other.outcome world = one.outcome world := by
    rcases either world with ⟨failure, refused, kind⟩ | same
    · rw [passed failure refused] at kind
      cases kind
    · exact same.symm
  constructor
  · intro first second same segments binding
    exact ⟨fun reentry => render_eq same reentry segments binding,
      fun depth world lenient => result_format_eq same depth segments binding lenient⟩
  · intro guarded guard reentry segments binding world
    constructor
    · intro passed unguarded _
      exact unrefused (render_refusedOr guard reentry segments binding) passed
    · intro passed
      refine unrefused ?_ passed
      exact RefusedOr.bind (render_refusedOr guard reentry segments binding) fun _ =>
        RefusedOr.refl _

theorem besideTemplate_flags :
    ((format (.ofDepth 1) ⟨true, true, false⟩ [.placeholder [.literal ['a']]] (.object 0)).outcome
        besideTemplate).1 =
      ((format (.ofDepth 1) ⟨false, false, false⟩ [.placeholder [.literal ['a']]] (.object 0)).outcome
        besideTemplate).1 ∧
      (render (.ofDepth 1) ⟨false, true, true⟩ [.placeholder [.literal ['a']]] (.object 0)).outcome
          besideTemplate =
        (render (.ofDepth 1) ⟨true, true, false⟩ [.placeholder [.literal ['a']]] (.object 0)).outcome
          besideTemplate ∧
      (format (.ofDepth 1) ⟨true, true, true⟩ [.placeholder [.literal ['a']]] (.object 0)).outcome
          besideTemplate =
        (format (.ofDepth 1) ⟨true, true, false⟩ [.placeholder [.literal ['a']]] (.object 0)).outcome
          besideTemplate := by
  obtain ⟨alike, guard⟩ := settings_matter_only_by_refusal
  have guarded := guard ⟨true, true, false⟩ rfl (.ofDepth 1) [.placeholder [.literal ['a']]] (.object 0)
    besideTemplate
  have results := (alike ⟨true, true, false⟩ ⟨false, false, false⟩ rfl [.placeholder [.literal ['a']]]
    (.object 0)).2 1 besideTemplate (Or.inl rfl)
  refine ⟨results, guarded.1 ?_ ⟨false, true, true⟩ rfl, guarded.2 ?_⟩
  · rw [render, renderLoop_eq_renderAllWith]
    intro failure failed
    cases failed
  · rw [format, render, renderLoop_eq_renderAllWith]
    intro failure failed
    cases failed

def strictWorld : World :=
  { World.empty with store := #[.sequence .list []], strict := true }

/-- Where warnings are failures, settings that ask for them take a text away that others give. -/
theorem strictWorld_results_differ :
    ((format (.ofDepth 1) ⟨false, true, false⟩ [.placeholder []] (.object 0)).outcome strictWorld).1 =
        .ok ['[', ']'] ∧
      ((format (.ofDepth 1) ⟨true, true, false⟩ [.placeholder []] (.object 0)).outcome strictWorld).1 =
        .error (.nonScalar [] Kind.sequence.word) := by
  simp only [format, render, renderLoop_eq_renderAllWith]
  exact ⟨rfl, rfl⟩

end
end Stencil
