import Stencil.World

/-! The outcome of a run from a given world: its result or its failure, and the world it leaves. -/

namespace Stencil

theorem exists_of_bind_eq_ok {ε α β : Type} {action : Except ε α} {next : α → Except ε β} {result : β}
    (given : (action >>= next) = .ok result) :
    ∃ value, action = .ok value ∧ next value = .ok result := by
  cases action with
  | ok value => exact ⟨value, rfl, given⟩
  | error failure => cases given

theorem bind_eq_error {ε α β : Type} {action : Except ε α} {next : α → Except ε β} {failure : ε}
    (failed : (action >>= next) = .error failure) :
    action = .error failure ∨ ∃ value, action = .ok value ∧ next value = .error failure := by
  cases action with
  | ok value => exact Or.inr ⟨value, rfl, failed⟩
  | error first =>
      cases failed
      exact Or.inl rfl

def World.noting (world : World) (events : List Event) : World :=
  { world with journal := world.journal ++ events }

namespace Run

def outcome {α : Type} (action : Run α) (world : World) : Except Failure α × World :=
  action.run.run world

@[simp]
theorem outcome_pure {α : Type} (value : α) (world : World) :
    (pure value : Run α).outcome world = (.ok value, world) := by
  rfl

@[simp]
theorem outcome_throw {α : Type} (failure : Failure) (world : World) :
    (throw failure : Run α).outcome world = (.error failure, world) := by
  rfl

@[simp]
theorem outcome_ofExcept {α : Type} (result : Except Failure α) (world : World) :
    (ofExcept result).outcome world = (result, world) := by
  cases result <;> rfl

theorem outcome_bind {α β : Type} (action : Run α) (next : α → Run β) (world : World) :
    (action >>= next).outcome world =
      match action.outcome world with
      | (.ok value, after) => (next value).outcome after
      | (.error failure, after) => (.error failure, after) := by
  simp only [outcome, ExceptT.run_bind, StateT.run_bind]
  obtain ⟨result, after⟩ := action.run.run world
  cases result <;> rfl

theorem outcome_bind_eq_ok_iff {α β : Type} (action : Run α) (next : α → Run β) (world after : World)
    (result : β) :
    (action >>= next).outcome world = (.ok result, after) ↔
      ∃ value middle, action.outcome world = (.ok value, middle) ∧
        (next value).outcome middle = (.ok result, after) := by
  rw [outcome_bind]
  obtain ⟨ended, reached⟩ := action.outcome world
  constructor
  · intro given
    cases ended with
    | ok value => exact ⟨value, reached, rfl, given⟩
    | error failure => cases given
  · rintro ⟨value, middle, same, given⟩
    cases same
    exact given

end Run
end Stencil
