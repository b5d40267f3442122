import Mathlib.Data.List.Forall2
import Mathlib.Order.Basic
import Stencil.Proofs.Run

/-! Two runs side by side. They start in worlds that correspond to each other; the correspondence may grow
while they go on, from stage to stage, and both must come to the same end. -/

namespace Stencil

inductive Corresponds {α β : Type} (values : α → β → Prop) :
    Except Failure α → Except Failure β → Prop
  | ok {first second} : values first second → Corresponds values (.ok first) (.ok second)
  | error (failure : Failure) : Corresponds values (.error failure) (.error failure)

theorem Corresponds.eq {α : Type} {first second : Except Failure α}
    (same : Corresponds (· = ·) first second) : first = second := by
  cases same with
  | ok equal => rw [equal]
  | error failure => rfl

theorem Corresponds.imp {α β : Type} {values others : α → β → Prop} {first : Except Failure α}
    {second : Except Failure β} (related : Corresponds values first second)
    (implies : ∀ {one other}, values one other → others one other) :
    Corresponds others first second := by
  cases related with
  | ok related => exact .ok (implies related)
  | error failure => exact .error failure

theorem Corresponds.refl {α : Type} {values : α → α → Prop} (reflexive : ∀ value, values value value)
    (result : Except Failure α) : Corresponds values result result := by
  cases result with
  | ok value => exact .ok (reflexive value)
  | error failure => exact .error failure

namespace Run

inductive Throughout where
  | always

instance : Preorder Throughout where
  le _ _ := True
  le_refl _ := trivial
  le_trans _ _ _ _ _ := trivial

theorem outcome_tryCatch {α : Type} (action : Run α) (handler : Failure → Run α) (world : World) :
    (tryCatch action handler).outcome world =
      match action.outcome world with
      | (.ok value, after) => (.ok value, after)
      | (.error failure, after) => (handler failure).outcome after := by
  simp only [outcome, ExceptT.run_tryCatch, StateT.run_bind]
  obtain ⟨result, after⟩ := action.run.run world
  cases result <;> rfl

theorem outcome_world (world : World) : Run.world.outcome world = (.ok world, world) := by
  rfl

theorem outcome_store (world : World) : store.outcome world = (.ok world.store, world) := by
  rfl

theorem outcome_node? (address : Address) (world : World) :
    (node? address).outcome world = (.ok world.store[address]?, world) := by
  rfl

theorem outcome_note (event : Event) (world : World) :
    (note event).outcome world = (.ok (), { world with journal := world.journal ++ [event] }) := by
  rfl

section

variable {Stage : Type} [Preorder Stage] {α β γ δ : Type}

/-- From all worlds that correspond at a stage, two runs reach worlds and results that correspond at a
later one. -/
def Relates (worlds : Stage → World → World → Prop) (stage : Stage) (values : Stage → α → β → Prop)
    (left : Run α) (right : Run β) : Prop :=
  ∀ first second, worlds stage first second →
    ∃ later, stage ≤ later ∧
      worlds later (left.outcome first).2 (right.outcome second).2 ∧
      Corresponds (values later) (left.outcome first).1 (right.outcome second).1

abbrev Alike (worlds : Stage → World → World → Prop) (stage : Stage) (left right : Run α) : Prop :=
  Relates worlds stage (fun _ => (· = ·)) left right

namespace Relates

variable {worlds : Stage → World → World → Prop} {stage : Stage}
variable {values : Stage → α → β → Prop} {others : Stage → γ → δ → Prop}

theorem pure {first : α} {second : β} (related : values stage first second) :
    Relates worlds stage values (Pure.pure first) (Pure.pure second) :=
  fun _ _ agree => ⟨stage, le_refl stage, agree, .ok related⟩

theorem throw (failure : Failure) :
    Relates worlds stage values (MonadExcept.throw failure) (MonadExcept.throw failure) :=
  fun _ _ agree => ⟨stage, le_refl stage, agree, .error failure⟩

theorem throw_bind (failure : Failure) {next : α → Run γ} {after : β → Run δ} :
    Relates worlds stage others (MonadExcept.throw failure >>= next)
      (MonadExcept.throw failure >>= after) :=
  fun _ _ agree => ⟨stage, le_refl stage, agree, .error failure⟩

theorem ofExcept {first : Except Failure α} {second : Except Failure β}
    (related : Corresponds (values stage) first second) :
    Relates worlds stage values (Run.ofExcept first) (Run.ofExcept second) := by
  cases related with
  | ok related => exact pure related
  | error failure => exact throw failure

theorem bind {left : Run α} {right : Run β} {next : α → Run γ} {after : β → Run δ}
    (head : Relates worlds stage values left right)
    (tail : ∀ later, stage ≤ later → ∀ first second, values later first second →
      Relates worlds later others (next first) (after second)) :
    Relates worlds stage others (left >>= next) (right >>= after) := by
  intro first second agree
  obtain ⟨middle, reached, agree, related⟩ := head first second agree
  rw [outcome_bind, outcome_bind]
  generalize left.outcome first = leftEnd at *
  generalize right.outcome second = rightEnd at *
  obtain ⟨leftResult, leftWorld⟩ := leftEnd
  obtain ⟨rightResult, rightWorld⟩ := rightEnd
  dsimp only at agree related
  cases related with
  | ok related =>
      obtain ⟨later, grown, agree, related⟩ := tail middle reached _ _ related _ _ agree
      exact ⟨later, le_trans reached grown, agree, related⟩
  | error failure => exact ⟨middle, reached, agree, .error failure⟩

theorem tryCatch {left : Run α} {right : Run β} {handler : Failure → Run α}
    {other : Failure → Run β} (body : Relates worlds stage values left right)
    (rescue : ∀ later, stage ≤ later → ∀ failure,
      Relates worlds later values (handler failure) (other failure)) :
    Relates worlds stage values (MonadExcept.tryCatch left handler)
      (MonadExcept.tryCatch right other) := by
  intro first second agree
  obtain ⟨middle, reached, agree, related⟩ := body first second agree
  rw [outcome_tryCatch, outcome_tryCatch]
  generalize left.outcome first = leftEnd at *
  generalize right.outcome second = rightEnd at *
  obtain ⟨leftResult, leftWorld⟩ := leftEnd
  obtain ⟨rightResult, rightWorld⟩ := rightEnd
  dsimp only at agree related
  cases related with
  | ok related => exact ⟨middle, reached, agree, .ok related⟩
  | error failure =>
      obtain ⟨later, grown, agree, related⟩ := rescue middle reached failure _ _ agree
      exact ⟨later, le_trans reached grown, agree, related⟩

theorem foldlM {step : α → γ → Run α} {other : β → γ → Run β} (items : List γ) {first : α}
    {second : β}
    (each : ∀ item ∈ items, ∀ later, stage ≤ later → ∀ first second, values later first second →
      Relates worlds later values (step first item) (other second item))
    (start : values stage first second) :
    Relates worlds stage values (items.foldlM step first) (items.foldlM other second) := by
  induction items generalizing stage first second with
  | nil =>
      rw [List.foldlM_nil, List.foldlM_nil]
      exact pure start
  | cons item rest ih =>
      rw [List.foldlM_cons, List.foldlM_cons]
      refine bind (each item List.mem_cons_self stage (le_refl stage) first second start) ?_
      intro middle reached first second related
      exact ih (fun item member later grown =>
        each item (List.mem_cons_of_mem _ member) later (le_trans reached grown)) related

end Relates

variable {worlds : Stage → World → World → Prop} {stage : Stage}

theorem Alike.ofExcept {first second : Except Failure α} (same : first = second) :
    Alike worlds stage (Run.ofExcept first) (Run.ofExcept second) := by
  subst same
  exact Relates.ofExcept (Corresponds.refl (fun _ => rfl) first)

theorem Alike.mapM {left : α → Run γ} {right : β → Run γ} {firsts : List α} {seconds : List β}
    (items : List.Forall₂ (fun first second => ∀ later, stage ≤ later →
      Alike worlds later (left first) (right second)) firsts seconds) :
    ∀ later, stage ≤ later → Alike worlds later (firsts.mapM left) (seconds.mapM right) := by
  induction items with
  | nil =>
      intro later _
      rw [List.mapM_nil, List.mapM_nil]
      exact Relates.pure rfl
  | cons head _ ih =>
      intro later reached
      rw [List.mapM_cons, List.mapM_cons]
      refine Relates.bind (head later reached) ?_
      rintro middle grown value _ rfl
      refine Relates.bind (ih middle (le_trans reached grown)) ?_
      rintro last _ rest _ rfl
      exact Relates.pure rfl

theorem Alike.forM {left right : α → Run Unit} (items : List α)
    (each : ∀ item ∈ items, ∀ later, stage ≤ later → Alike worlds later (left item) (right item)) :
    Alike worlds stage (items.forM left) (items.forM right) := by
  induction items generalizing stage with
  | nil => exact Relates.pure rfl
  | cons item rest ih =>
      refine Relates.bind (each item List.mem_cons_self stage (le_refl stage)) ?_
      intro middle reached _ _ _
      exact ih fun item member later grown =>
        each item (List.mem_cons_of_mem _ member) later (le_trans reached grown)

end
end Run
end Stencil
