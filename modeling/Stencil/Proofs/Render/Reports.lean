import Stencil.Proofs.Scene.Rendering

/-! Formatting is rendering followed by the reports of its diagnostics. The reports come all together, when
the text is there, or not at all. -/

namespace Stencil

open Run Segment

def Settings.reports (settings : Settings) (diagnostic : Diagnostic) : List Event :=
  let failure := Failure.nonScalar diagnostic.expression diagnostic.kind.word
  (if settings.logNonScalar then [.log .warning .formatter diagnostic.message] else []) ++
    if settings.emitWarnings then
      [.warning diagnostic.expression diagnostic.kind.word failure.message]
    else []

theorem Diagnostic.IsMade.message {diagnostic : Diagnostic} (made : diagnostic.IsMade) :
    diagnostic.message =
      (Failure.nonScalar diagnostic.expression diagnostic.kind.word).message := by
  obtain ⟨expression, kind, rfl⟩ := made
  rfl

theorem outcome_emit {world : World} (lenient : world.strict = false) (settings : Settings)
    {diagnostic : Diagnostic} (made : diagnostic.IsMade) :
    (emit settings diagnostic).outcome world =
      (.ok (), world.noting (settings.reports diagnostic)) := by
  have worded := made.message
  obtain ⟨store, environment, default, _, journal⟩ := world
  obtain ⟨warns, logs, _⟩ := settings
  cases lenient
  cases warns <;> cases logs <;>
    simp [emit, Settings.reports, World.noting, Run.log, outcome_note, outcome_bind, outcome_world,
      worded]

theorem outcome_forM_emit (settings : Settings) (diagnostics : List Diagnostic) :
    ∀ world : World, world.strict = false → (∀ diagnostic ∈ diagnostics, diagnostic.IsMade) →
      (diagnostics.forM (emit settings)).outcome world =
        (.ok (), world.noting (diagnostics.flatMap settings.reports)) := by
  induction diagnostics with
  | nil =>
      intro world _ _
      simp [World.noting, List.forM]
  | cons diagnostic rest ih =>
      intro world lenient made
      have head := outcome_emit lenient settings (made diagnostic List.mem_cons_self)
      have tail := ih (world.noting (settings.reports diagnostic)) lenient
        fun other member => made other (List.mem_cons_of_mem _ member)
      rw [List.forM, outcome_bind, head]
      dsimp only
      rw [tail]
      simp [World.noting]

theorem outcome_format {world : World} (lenient : world.strict = false) (reentry : Reentry)
    (settings : Settings) (segments : List Segment) (binding : Value)
    (still : ((render reentry settings segments binding).outcome world).2.strict = world.strict)
    (made : ∀ rendering,
      ((render reentry settings segments binding).outcome world).1 = .ok rendering →
        ∀ diagnostic ∈ rendering.diagnostics, diagnostic.IsMade) :
    (format reentry settings segments binding).outcome world =
      match (render reentry settings segments binding).outcome world with
      | (.ok rendering, after) =>
        (.ok rendering.text, after.noting (rendering.diagnostics.flatMap settings.reports))
      | (.error failure, after) => (.error failure, after) := by
  unfold format
  rw [outcome_bind]
  generalize (render reentry settings segments binding).outcome world = ended at *
  obtain ⟨result, after⟩ := ended
  cases result with
  | error failure => rfl
  | ok rendering =>
      have told := outcome_forM_emit settings rendering.diagnostics after (still.trans lenient)
        (made rendering rfl)
      dsimp only
      rw [outcome_bind, told]
      rfl

/-- Formatting gives a text exactly where rendering does, and the same one. Beside the debug lines that
both write, formatting tells each diagnostic, in order, once the whole text is there; a rendering that
fails is told of by nothing but its failure. -/
theorem format_eq_render_then_reports {world : World} (lenient : world.strict = false) {binding : Value}
    (apart : binding.ReachesNoTemplate world.store) (reentry : Reentry) (settings : Settings)
    (segments : List Segment) :
    (∃ noted,
      ((render reentry settings segments binding).outcome world).2.journal =
          world.journal ++ noted ∧
        ∀ event ∈ noted, event.isReport = false) ∧
      (∀ rendering,
        ((render reentry settings segments binding).outcome world).1 = .ok rendering →
          ∀ diagnostic ∈ rendering.diagnostics,
            diagnostic.message =
              (Failure.nonScalar diagnostic.expression diagnostic.kind.word).message) ∧
      (format reentry settings segments binding).outcome world =
        match (render reentry settings segments binding).outcome world with
        | (.ok rendering, after) =>
          (.ok rendering.text, after.noting (rendering.diagnostics.flatMap settings.reports))
        | (.error failure, after) => (.error failure, after) := by
  have within : binding.In (Scene.around world binding apart) := fun address same => .self same
  obtain ⟨later, reached, left, made⟩ :=
    render_leads (reentry.passes_of_none) settings segments within
  have evolves : world.Evolves False ((render reentry settings segments binding).outcome world).2 := by
    rw [show ((render reentry settings segments binding).outcome world).2 = later.world from left]
    exact reached.2
  refine ⟨?_, fun rendering given diagnostic member => (made rendering given diagnostic member).message, ?_⟩
  · obtain ⟨noted, grown, quiet⟩ := evolves.told
    refine ⟨noted, grown, fun event member => ?_⟩
    exact Bool.eq_false_iff.mpr (quiet event member)
  · exact outcome_format lenient reentry settings segments binding evolves.strict made

def besideTemplate : World :=
  { World.empty with
    store :=
      #[.mapping .plain [(.text ['a'], .object 1)], .sequence .list [.integer 1],
        .template ⟨['x'], [.literal ['x']], .absent, none⟩] }

theorem besideTemplate_apart : (Value.object 0).ReachesNoTemplate besideTemplate.store := by
  have inside (address : Address) (reached : (Value.object 0).Reaches besideTemplate.store address) :
      address = 0 ∨ address = 1 := by
    induction reached with
    | self same => exact Or.inl (Value.object.inj same).symm
    | part _ found held ih =>
        rcases ih with rfl | rfl
        · cases found
          change _ ∈ [Value.text ['a'], .object 1] at held
          exact Or.inr (by simpa using held)
        · cases found
          change _ ∈ [Value.integer 1] at held
          simp at held
  intro address template reached
  rcases inside address reached with rfl | rfl <;> exact nofun

def listReport : Text := Failure.nonScalarMessage ['a'] Kind.sequence.word

theorem besideTemplate_reports :
    ((format (.ofDepth 1) .default [.placeholder [.literal ['a']], .literal ['!']] (.object 0)).outcome
        besideTemplate).1 = .ok ['[', '1', ']', '!'] ∧
      (((format (.ofDepth 1) .default [.placeholder [.literal ['a']], .literal ['!']] (.object 0)).outcome
        besideTemplate).2.journal.filter Event.isReport =
          [.log .warning .formatter listReport, .warning ['a'] Kind.sequence.word listReport]) ∧
      ((format (.ofDepth 1) .default [.placeholder [.literal ['a']], .placeholder [.literal ['0']]]
        (.object 0)).outcome besideTemplate).2.journal.filter Event.isReport = [] := by
  have told (segments : List Segment) :=
    (format_eq_render_then_reports rfl besideTemplate_apart (.ofDepth 1) .default segments).2.2
  simp only [told, render, renderLoop_eq_renderAllWith]
  exact ⟨rfl, rfl, rfl⟩

end Stencil
