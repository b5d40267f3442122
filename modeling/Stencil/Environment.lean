import Stencil.Text

/-! Environment variables, each set at most once. -/

namespace Stencil

abbrev Environment := List (Text × Text)

namespace Environment

def get? (environment : Environment) (name : Text) : Option Text :=
  List.lookup name environment

def erase (environment : Environment) (name : Text) : Environment :=
  environment.filter (·.1 ≠ name)

def set (environment : Environment) (name value : Text) : Environment :=
  (name, value) :: environment.erase name

def setDefault (environment : Environment) (name value : Text) : Environment :=
  if (environment.get? name).isSome then environment else environment.set name value

theorem get?_cons_self (environment : Environment) (name value : Text) :
    Environment.get? ((name, value) :: environment) name = some value := by
  simp [get?]

theorem get?_erase_of_ne (environment : Environment) {name other : Text} (different : other ≠ name) :
    (environment.erase name).get? other = environment.get? other := by
  induction environment with
  | nil => rfl
  | cons entry rest ih =>
      obtain ⟨first, value⟩ := entry
      by_cases dropped : first = name
      · subst dropped
        simpa [get?, erase, List.lookup_cons, beq_eq_false_iff_ne.mpr different] using ih
      · by_cases found : other = first
        · subst found
          simp [get?, erase, dropped]
        · simpa [get?, erase, List.lookup_cons, dropped, beq_eq_false_iff_ne.mpr found] using ih

theorem get?_set (environment : Environment) (name other value : Text) :
    (environment.set name value).get? other =
      if other = name then some value else environment.get? other := by
  by_cases same : other = name
  · subst same
    simpa [set] using get?_cons_self _ _ _
  · have kept := get?_erase_of_ne environment same
    simpa [set, get?, List.lookup_cons, beq_eq_false_iff_ne.mpr same, same] using kept

theorem get?_setDefault (environment : Environment) (name other value : Text) :
    (environment.setDefault name value).get? other =
      (environment.get? other).or (if other = name then some value else none) := by
  unfold setDefault
  by_cases same : other = name
  · subst same
    cases found : environment.get? other with
    | none => simp [get?_set]
    | some held => simp [found]
  · by_cases there : (environment.get? name).isSome
    · simp [there, same]
    · simp [there, same, get?_set]

end Environment
end Stencil
