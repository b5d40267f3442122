import Stencil.Proofs.Agreement.Texts
import Stencil.Proofs.Render.Recursion

/-! One binding in the place of another. Where each expression that gives a text without diagnostics gives
the same one under the second binding, so does each sequence of segments. -/

namespace Stencil

open Run Segment

/-- Wherever the first run gives a text without diagnostics, the second gives that text without
diagnostics too. -/
def Run.Follows (worlds : World → World → Prop) (left right : Run (Text × List Diagnostic)) : Prop :=
  ∀ first second, worlds first second → ∀ text after,
    left.outcome first = (.ok (text, []), after) →
      ∃ reached, right.outcome second = (.ok (text, []), reached) ∧ worlds after reached

namespace Run.Follows

variable {worlds : World → World → Prop} {left right : Run (Text × List Diagnostic)}
variable {next after : Text → Run (Text × List Diagnostic)}

theorem pure (text : Text) :
    Follows worlds (Pure.pure (text, [])) (Pure.pure (text, [])) := by
  intro first second related _ _ given
  cases given
  exact ⟨second, rfl, related⟩

theorem join (change : Text → Text → Text) (head : Follows worlds left right)
    (tail : ∀ text, Follows worlds (next text) (after text)) :
    Follows worlds
      (do
        let (text, own) ← left
        let (others, later) ← next text
        return (change text others, own ++ later))
      (do
        let (text, own) ← right
        let (others, later) ← after text
        return (change text others, own ++ later)) := by
  intro first second related whole last given
  obtain ⟨⟨text, own⟩, middle, begun, given⟩ := (outcome_bind_eq_ok_iff _ _ _ _ _).mp given
  obtain ⟨⟨others, later⟩, closed, ended, given⟩ := (outcome_bind_eq_ok_iff _ _ _ _ _).mp given
  have parts : change text others = whole ∧ (own = [] ∧ later = []) ∧ closed = last := by
    simpa [and_assoc] using given
  obtain ⟨rfl, ⟨rfl, rfl⟩, rfl⟩ := parts
  obtain ⟨beside, opened, related⟩ := head first second related text middle begun
  obtain ⟨reached, finished, related⟩ := tail text middle beside related others closed ended
  refine ⟨reached, ?_, related⟩
  rw [outcome_bind, opened]
  dsimp only
  rw [outcome_bind, finished]
  rfl

end Run.Follows

variable {worlds : World → World → Prop} {expand other : Text → Run (Text × List Diagnostic)}

theorem renderAllWith_follows (each : ∀ expression, Follows worlds (expand expression) (other expression))
    (segments : List Segment) :
    Follows worlds (renderAllWith expand segments) (renderAllWith other segments) := by
  induction segments using sequenceInduction with
  | nil => exact Follows.pure []
  | literal text rest ih => exact Follows.join (· ++ ·) (Follows.pure text) fun _ => ih
  | placeholder children rest childrenIH restIH =>
      have head : Follows worlds ((Segment.placeholder children).renderWith expand)
          ((Segment.placeholder children).renderWith other) :=
        Follows.join (fun _ text => text) childrenIH each
      exact Follows.join (· ++ ·) head fun _ => restIH

theorem result_render_eq_ok_iff (reentry : Reentry) (settings : Settings) (segments : List Segment)
    (binding : Value) (world : World) (text : Text) :
    ((render reentry settings segments binding).outcome world).1 = .ok ⟨text, []⟩ ↔
      ∃ after, (renderAllWith (renderExpression reentry settings binding) segments).outcome world =
        (.ok (text, []), after) := by
  rw [render, renderLoop_eq_renderAllWith, outcome_bind]
  obtain ⟨result, reached⟩ :=
    (renderAllWith (renderExpression reentry settings binding) segments).outcome world
  cases result with
  | error failure => simp
  | ok rendered =>
      obtain ⟨shown, diagnostics⟩ := rendered
      simp

theorem render_follows {worlds : World → World → Prop} {reentry : Reentry} {settings : Settings}
    {first second : Value}
    (each : ∀ expression, Follows worlds (renderExpression reentry settings first expression)
      (renderExpression reentry settings second expression))
    {one other : World} (related : worlds one other) (segments : List Segment) {text : Text}
    (given : ((render reentry settings segments first).outcome one).1 = .ok ⟨text, []⟩) :
    ((render reentry settings segments second).outcome other).1 = .ok ⟨text, []⟩ := by
  obtain ⟨after, rendered⟩ := (result_render_eq_ok_iff _ _ _ _ _ _).mp given
  obtain ⟨reached, follows, _⟩ :=
    renderAllWith_follows each segments one other related text after rendered
  exact (result_render_eq_ok_iff _ _ _ _ _ _).mpr ⟨reached, follows⟩

theorem Value.isObject_of_isScalar {value : Value} {store : Store}
    (scalar : (value.kind store).isScalar = true) : value.isObject = false := by
  cases value with
  | object address =>
      simp only [Value.kind] at scalar
      split at scalar
      · rename_i node _
        cases node <;> cases scalar
      · cases scalar
  | _ => rfl

theorem exists_outcome_coerce {value : Value} {store : Store}
    (scalar : (value.kind store).isScalar = true) (reentry : Reentry) :
    ∃ result, ∀ world, (value.coerce reentry).outcome world = (result, world) := by
  have plain := Value.isObject_of_isScalar scalar
  cases value with
  | object => cases plain
  | integer n => exact ⟨_, fun world => outcome_ofExcept (integerText n) world⟩
  | fraction numerator denominator =>
      exact ⟨_, fun world => outcome_ofExcept (fractionText numerator denominator) world⟩
  | absent | bool | real | complex | decimal | text | bytes | byteArray => exact ⟨_, fun _ => rfl⟩
  | _ => cases scalar

theorem renderExpression_follows {worlds : Throughout → World → World → Prop}
    {values : Value → Value → Prop} {reentry : Reentry} {settings : Settings} {first second : Value}
    {expression : Text}
    (resolved : Relates worlds .always (fun _ => values) (resolve reentry settings first expression)
      (resolve reentry settings second expression))
    (written : ∀ {found beside one other}, values found beside → worlds .always one other →
      (found.kind one.store).isScalar = true → (beside.kind other.store).isScalar = true ∧
        ∃ result, (found.coerce reentry).outcome one = (result, one) ∧
          (beside.coerce reentry).outcome other = (result, other)) :
    Follows (worlds .always) (renderExpression reentry settings first expression)
      (renderExpression reentry settings second expression) := by
  intro one other related text after given
  obtain ⟨found, middle, resolvedOne, given⟩ := (outcome_bind_eq_ok_iff _ _ _ _ _).mp given
  obtain ⟨_, _, related, values⟩ := resolved one other related
  rw [resolvedOne] at related values
  rw [renderExpression, outcome_bind]
  generalize (resolve reentry settings second expression).outcome other = ended at *
  obtain ⟨result, reached⟩ := ended
  cases values with
  | @ok _ beside same =>
      dsimp only at related ⊢
      rw [outcome_bind, outcome_store] at given ⊢
      obtain ⟨shown, last, coerced, given⟩ := (outcome_bind_eq_ok_iff _ _ _ _ _).mp given
      have plain : (found.kind middle.store).isScalar = true := by
        by_contra composite
        simp only [composite, ↓reduceIte] at given
        cases given
      obtain ⟨scalar, result, here, there⟩ := written same related plain
      rw [here] at coerced
      cases coerced
      simp only [plain, ↓reduceIte] at given
      cases given
      refine ⟨reached, ?_, related⟩
      dsimp only
      rw [outcome_bind, there, scalar]
      rfl

end Stencil
