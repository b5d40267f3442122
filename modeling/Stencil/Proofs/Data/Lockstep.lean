import Stencil.Proofs.Agreement.Values
import Stencil.Proofs.Run.Relation

/-! Two walks side by side. If no single key can tell two values apart, no path can, and no key expression. -/

namespace Stencil

open Run

/-- A relation between the values of two stores that each key keeps: related values are of one kind, an index or
a name finds related values in both or nothing in either, and so does an accessor, which fails alike. -/
structure Lockstep [Bodies] (left right : Store) (worlds : Throughout → World → World → Prop)
    (settings : Settings) (values : Value → Value → Prop) : Prop where
  absent : values .absent .absent
  kind : ∀ {first second}, values first second → first.kind left = second.kind right
  accessor : ∀ {first second}, values first second → second.kind right = .record →
    ∀ reentry name expression, Relates worlds .always (fun _ => values)
      (stepAccessor reentry settings first name expression)
      (stepAccessor reentry settings second name expression)
  length : ∀ {first second}, values first second → second.kind right = .sequence →
    first.length left = second.length right
  item : ∀ {first second}, values first second → second.kind right = .sequence → ∀ index,
    Option.Rel values (first.item? left index) (second.item? right index)
  entry : ∀ {first second}, values first second → second.kind right = .mapping → ∀ name,
    Option.Rel values (first.entry? left name) (second.entry? right name)

structure Keeping (left right : Store) (worlds : Throughout → World → World → Prop) : Prop where
  stores : ∀ {stage one other}, worlds stage one other → one.store = left ∧ other.store = right
  noting : ∀ {stage one other} (event : Event), worlds stage one other →
    worlds stage (one.noting [event]) (other.noting [event])

section

variable {left right : Store} {worlds : Throughout → World → World → Prop}

theorem Keeping.store (keeping : Keeping left right worlds) :
    Relates worlds .always (fun _ one other => one = left ∧ other = right) Run.store Run.store :=
  fun _ _ related => ⟨.always, le_refl _, related, .ok (keeping.stores related)⟩

theorem Keeping.note (keeping : Keeping left right worlds) (event : Event) :
    Alike worlds .always (Run.note event) (Run.note event) :=
  fun _ _ related => ⟨.always, le_refl _, keeping.noting event related, .ok rfl⟩

def ToldAlike (start beside : World) : Throughout → World → World → Prop :=
  fun _ one other => ∃ told, one = start.noting told ∧ other = beside.noting told

theorem toldAlike_self (start beside : World) : ToldAlike start beside .always start beside :=
  ⟨[], by simp [World.noting]⟩

theorem toldAlike_keeping (start beside : World) :
    Keeping start.store beside.store (ToldAlike start beside) where
  stores := by
    rintro _ _ _ ⟨told, rfl, rfl⟩
    exact ⟨rfl, rfl⟩
  noting := by
    rintro _ _ _ event ⟨told, rfl, rfl⟩
    exact ⟨told ++ [event], by simp [World.noting]⟩

variable [Bodies] {settings : Settings} {values : Value → Value → Prop} {first second : Value}

theorem stepIndex_lockstep (lockstep : Lockstep left right worlds settings values)
    (related : values first second) (key : Key) (index : Nat) (expression : Text) :
    Corresponds values (stepIndex left first key index expression)
      (stepIndex right second key index expression) := by
  unfold stepIndex
  rw [lockstep.kind related]
  by_cases sequence : second.kind right = .sequence
  · have length := lockstep.length related sequence
    simp only [sequence, ne_eq, not_true_eq_false, ↓reduceIte, length]
    split
    · exact .error _
    · obtain ⟨none, none'⟩ | ⟨item, beside, some, some', found⟩ :=
        cases_of_rel (lockstep.item related sequence index)
      · rw [none, none']
        exact .error _
      · rw [some, some']
        exact .ok found
  · simp only [ne_eq, sequence, not_false_eq_true, ↓reduceIte]
    exact .error _

theorem step_lockstep (lockstep : Lockstep left right worlds settings values)
    (keeping : Keeping left right worlds) (related : values first second) (reentry : Reentry)
    (expression : Text) (key : Key) :
    Relates worlds .always (fun _ => values) (step reentry settings expression first key)
      (step reentry settings expression second key) := by
  unfold step
  split
  · refine Relates.bind keeping.store ?_
    rintro _ _ _ _ ⟨rfl, rfl⟩
    exact Relates.ofExcept (stepIndex_lockstep lockstep related key _ expression)
  · refine Relates.bind keeping.store ?_
    rintro _ _ _ _ ⟨rfl, rfl⟩
    rw [lockstep.kind related]
    cases kind : second.kind _ with
    | mapping =>
        refine Relates.pure ?_
        obtain ⟨none, none'⟩ | ⟨item, beside, some, some', found⟩ :=
          cases_of_rel (lockstep.entry related kind key.raw)
        · rw [none, none']
          exact lockstep.absent
        · rw [some, some']
          exact found
    | record => exact lockstep.accessor related kind reentry key.raw expression
    | _ => exact Relates.throw _

theorem walk_lockstep (lockstep : Lockstep left right worlds settings values)
    (keeping : Keeping left right worlds) (related : values first second) (reentry : Reentry)
    (expression : Text) (keys : List Key) :
    Relates worlds .always (fun _ => values) (walk reentry settings expression first keys)
      (walk reentry settings expression second keys) := by
  refine Relates.foldlM keys ?_ related
  rintro key _ _ _ _ _ related
  exact step_lockstep lockstep keeping related reentry expression key

theorem resolve_lockstep (lockstep : Lockstep left right worlds settings values)
    (keeping : Keeping left right worlds) (related : values first second) (reentry : Reentry) (expression : Text) :
    Relates worlds .always (fun _ => values) (resolve reentry settings first expression)
      (resolve reentry settings second expression) := by
  refine Relates.bind (Alike.ofExcept rfl) ?_
  rintro _ _ parsed _ rfl
  refine Relates.bind
    (walk_lockstep lockstep keeping related reentry expression parsed.keys) ?_
  rintro _ _ _ _ found
  refine Relates.bind keeping.store ?_
  rintro _ _ _ _ ⟨rfl, rfl⟩
  rw [lockstep.kind found]
  refine Relates.bind (keeping.note _) ?_
  rintro _ _ _ _ _
  exact Relates.pure found

end
end Stencil
