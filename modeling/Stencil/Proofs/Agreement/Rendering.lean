import Stencil.Proofs.Agreement.Calls
import Stencil.Proofs.Render.Recursion

/-! Private members have no influence: bindings that agree in all that public names give are rendered
alike, as long as the settings refuse private names. -/

namespace Stencil

open Run Segment

section

variable {paired : Pairing}

theorem stepIndex_agrees {left right : Store} (stores : Store.Agrees paired left right)
    {first second : Value} (agree : first.Agrees paired second) (key : Key) (index : Nat)
    (expression : Text) :
    Corresponds (Value.Agrees paired) (stepIndex left first key index expression)
      (stepIndex right second key index expression) := by
  unfold stepIndex
  rw [agree.kind stores, agree.length stores]
  dsimp only
  split
  · exact .error _
  · split
    · exact .error _
    · rcases cases_of_rel (agree.item? stores index) with
        ⟨here, there⟩ | ⟨item, beside, here, there, agree⟩
      · rw [here, there]
        exact .error _
      · rw [here, there]
        exact .ok agree

/-- A private name is refused before it is read, so that not even its absence shows. -/
theorem stepAccessor_agrees (reentry another : Reentry) {settings : Settings}
    (guarded : settings.allowPrivate = false) {first second : Value}
    (agree : first.Agrees paired second) (name expression : Text) :
    Relates World.Agrees paired Value.Agrees
      (stepAccessor reentry settings first name expression)
      (stepAccessor another settings second name expression) := by
  refine Relates.bind store_agrees ?_
  intro later grown left right stores
  have agree := agree.mono grown
  dsimp only
  rw [agree.typeName stores, guarded]
  cases seen : isPrivate name with
  | true => exact Relates.throw_bind _
  | false =>
      refine Relates.bind (access_agrees reentry another agree seen) ?_
      intro _ _ found other accessors
      cases accessors with
      | missing => exact Relates.throw _
      | needsArguments => exact Relates.throw _
      | value agree => exact Relates.pure agree

theorem step_agrees (reentry another : Reentry) {settings : Settings}
    (guarded : settings.allowPrivate = false) (expression : Text) {first second : Value}
    (agree : first.Agrees paired second) (key : Key) :
    Relates World.Agrees paired Value.Agrees (step reentry settings expression first key)
      (step another settings expression second key) := by
  unfold step
  split
  · refine Relates.bind store_agrees ?_
    intro later grown left right stores
    exact Relates.ofExcept (stepIndex_agrees stores (agree.mono grown) key _ expression)
  · refine Relates.bind store_agrees ?_
    intro later grown left right stores
    have agree := agree.mono grown
    rw [agree.kind stores]
    cases second.kind right with
    | mapping =>
        refine Relates.pure ?_
        rcases cases_of_rel (agree.entry? stores key.raw) with
          ⟨here, there⟩ | ⟨item, beside, here, there, agree⟩
        · rw [here, there]
          exact .immediate _ rfl
        · rw [here, there]
          exact agree
    | record => exact stepAccessor_agrees reentry another guarded agree key.raw expression
    | _ => exact Relates.throw _

theorem resolve_agrees (reentry another : Reentry) {settings : Settings}
    (guarded : settings.allowPrivate = false) {binding other : Value}
    (agree : binding.Agrees paired other) (expression : Text) :
    Relates World.Agrees paired Value.Agrees (resolve reentry settings binding expression)
      (resolve another settings other expression) := by
  refine Relates.bind (Alike.ofExcept rfl) ?_
  rintro later grown parsed _ rfl
  refine Relates.bind (Relates.foldlM parsed.keys ?_ (agree.mono grown)) ?_
  · intro key _ reached _ first second agree
    exact step_agrees reentry another guarded expression agree key
  · intro reached since found beside agree
    refine Relates.bind store_agrees ?_
    intro last wider left right stores
    rw [(agree.mono wider).kind stores]
    refine Relates.bind (note_alike _) ?_
    intro _ final _ _ _
    exact Relates.pure ((agree.mono wider).mono final)

theorem renderExpression_alike (reentry another : Reentry) {settings : Settings}
    (guarded : settings.allowPrivate = false) {binding other : Value}
    (agree : binding.Agrees paired other) (expression : Text) :
    Alike World.Agrees paired (renderExpression reentry settings binding expression)
      (renderExpression another settings other expression) := by
  refine Relates.bind (resolve_agrees reentry another guarded agree expression) ?_
  intro later grown found beside agree
  refine Relates.bind store_agrees ?_
  intro reached since left right stores
  have agree := agree.mono since
  rw [agree.kind stores]
  refine Relates.bind (coerce_alike reentry another agree) ?_
  rintro _ _ text _ rfl
  exact Relates.pure rfl

end

section

variable {paired : Pairing}

theorem render_alike (reentry another : Reentry) {settings : Settings}
    (guarded : settings.allowPrivate = false) (segments : List Segment) {binding other : Value}
    (agree : binding.Agrees paired other) :
    Alike World.Agrees paired (render reentry settings segments binding)
      (render another settings segments other) := by
  rw [render, render, renderLoop_eq_renderAllWith, renderLoop_eq_renderAllWith]
  refine Relates.bind (renderAllWith_alike segments paired ?_) ?_
  · intro later grown expression
    exact renderExpression_alike reentry another guarded (agree.mono grown) expression
  · rintro _ _ rendered _ rfl
    exact Relates.pure rfl

theorem world_strict :
    Relates World.Agrees paired (fun _ left right => left.strict = right.strict) Run.world Run.world :=
  fun _ _ agree => ⟨paired, le_refl _, agree, .ok agree.strict⟩

theorem emit_alike (settings : Settings) (diagnostic : Diagnostic) :
    Alike World.Agrees paired (emit settings diagnostic) (emit settings diagnostic) := by
  let warn : Run Unit :=
    if settings.emitWarnings then do
      if (← Run.world).strict then throw (.nonScalar diagnostic.expression diagnostic.kind.word)
      else Run.note (.warning diagnostic.expression diagnostic.kind.word diagnostic.message)
    else pure ()
  have warned (stage : Pairing) : Alike World.Agrees stage warn warn := by
    dsimp only [warn]
    split
    · refine Relates.bind world_strict ?_
      intro later grown left right strict
      rw [strict]
      split
      · exact Relates.throw _
      · exact note_alike _
    · exact Relates.pure rfl
  unfold emit
  dsimp only
  split
  · refine Relates.bind (note_alike _) ?_
    intro later _ _ _ _
    exact warned later
  · exact warned paired

theorem format_alike (reentry another : Reentry) {settings : Settings}
    (guarded : settings.allowPrivate = false) (segments : List Segment) {binding other : Value}
    (agree : binding.Agrees paired other) :
    Alike World.Agrees paired (format reentry settings segments binding)
      (format another settings segments other) := by
  refine Relates.bind (render_alike reentry another guarded segments agree) ?_
  rintro later grown rendering _ rfl
  refine Relates.bind (Alike.forM rendering.diagnostics ?_) ?_
  · intro diagnostic _ last _
    exact emit_alike settings diagnostic
  rintro _ _ _ _ _
  exact Relates.pure rfl

def SameOutcome {α : Type} (paired : Pairing) (first second : World) (left right : Run α) : Prop :=
  (left.outcome first).1 = (right.outcome second).1 ∧
    ∃ later, paired ≤ later ∧
      World.Agrees later (left.outcome first).2 (right.outcome second).2

theorem sameOutcome_of_alike {α : Type} {first second : World} {left right : Run α}
    (alike : Alike World.Agrees paired left right) (worlds : World.Agrees paired first second) :
    SameOutcome paired first second left right := by
  obtain ⟨later, grown, after, same⟩ := alike first second worlds
  exact ⟨same.eq, later, grown, after⟩

/-- Under settings that refuse private names, bindings that agree in all that public names give are rendered
and formatted to the same outcome, whatever stands under their private names. -/
theorem render_and_format_ignore_private_names {first second : World}
    (worlds : World.Agrees paired first second) {binding other : Value}
    (bindings : binding.Agrees paired other) {settings : Settings}
    (guarded : settings.allowPrivate = false) (reentry another : Reentry) (segments : List Segment) :
    SameOutcome paired first second (render reentry settings segments binding)
        (render another settings segments other) ∧
      SameOutcome paired first second (format reentry settings segments binding)
        (format another settings segments other) :=
  ⟨sameOutcome_of_alike (render_alike reentry another guarded segments bindings) worlds,
    sameOutcome_of_alike (format_alike reentry another guarded segments bindings) worlds⟩

def keyHolder : World :=
  { World.empty with
    store :=
      #[.blueprint ⟨['P'], []⟩,
        .record ⟨['P'], 0, [(['_', 'k'], .integer 1), (['n'], .text ['v'])], none, .as ['p'], .is true,
          .is false, none⟩] }

def listHolder : World :=
  { World.empty with
    store :=
      #[.sequence .list [],
        .record ⟨['P'], 2, [(['n'], .text ['v']), (['_', 'k'], .object 0)], none, .as ['p'], .is false,
          .is false, none⟩,
        .blueprint ⟨['P'], [⟨.method, ['_', 'm'], [], .gives .absent []⟩]⟩] }

def holders : Pairing := fun first second => (first = 0 ∧ second = 2) ∨ (first = 1 ∧ second = 1)

theorem holders_agree : World.Agrees holders keyHolder listHolder where
  stores :=
    { one_to_one := by
        constructor
        · rintro first second third (⟨rfl, rfl⟩ | ⟨rfl, rfl⟩) (⟨rfl, same⟩ | ⟨rfl, same⟩)
          all_goals first | rfl | cases same
        · rintro first second third (⟨rfl, rfl⟩ | ⟨rfl, rfl⟩) (⟨same, rfl⟩ | ⟨same, rfl⟩)
          all_goals first | rfl | cases same
      nodes := by
        rintro first second (⟨rfl, rfl⟩ | ⟨rfl, rfl⟩)
        · refine ⟨_, _, rfl, rfl, .blueprint ⟨rfl, ?_⟩⟩
          intro name seen
          have hidden : ['_', 'm'] ≠ name := (ne_of_private rfl seen).symm
          simp only [Blueprint.find?, List.find?_nil, List.find?_cons_of_neg, hidden, decide_false,
            Bool.false_eq_true, not_false_eq_true]
          exact .none
        · refine ⟨_, _, rfl, rfl, .record ⟨rfl, Or.inl ⟨rfl, rfl⟩, ?_, rfl, rfl, rfl⟩⟩
          intro name seen
          have hidden : (name == ['_', 'k']) = false :=
            beq_eq_false_iff_ne.mpr (ne_of_private rfl seen)
          simp only [Record.attribute?, List.lookup_cons, List.lookup_nil, hidden]
          cases name == ['n'] with
          | true => exact .some (.immediate _ rfl)
          | false => exact .none }
  strict := rfl
  limit := rfl
  told := rfl

theorem holders_render_alike :
    (∀ reentry,
      ((resolve reentry ⟨true, true, true⟩ (.object 1) ['_', 'k']).outcome keyHolder).1 =
          .ok (.integer 1) ∧
        ((resolve reentry ⟨true, true, true⟩ (.object 1) ['_', 'k']).outcome listHolder).1 =
          .ok (.object 0)) ∧
      ∀ reentry another segments,
        SameOutcome holders keyHolder listHolder
            (render reentry ⟨true, true, false⟩ segments (.object 1))
            (render another ⟨true, true, false⟩ segments (.object 1)) ∧
          SameOutcome holders keyHolder listHolder
            (format reentry ⟨true, true, false⟩ segments (.object 1))
            (format another ⟨true, true, false⟩ segments (.object 1)) := by
  refine ⟨fun reentry => ⟨rfl, rfl⟩, ?_⟩
  intro reentry another segments
  exact render_and_format_ignore_private_names holders_agree (.object (Or.inr ⟨rfl, rfl⟩)) rfl reentry
    another segments

end
end Stencil
