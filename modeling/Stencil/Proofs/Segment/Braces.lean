import Stencil.Segment.Groups

/-! The braces of a text from left to right: which of them are escaped, and whether a closing brace meets
an opening one. -/

namespace Stencil

/-- What a brace is in a text. An escaped brace is text, and no brace before it pairs with one behind. -/
inductive Mark where
  | opening
  | closing
  | escaped
deriving DecidableEq

theorem Groups.ne_escape_of_brace {c : Char} (brace : c = '{' ∨ c = '}') : c ≠ escape := by
  rcases brace with rfl | rfl <;> decide

namespace Text

def escapesNext (escaped : Bool) (text : Text) : Bool :=
  match text.getLast? with
  | some c => c = Groups.escape
  | none => escaped

def marks : (escaped : Bool) → Text → List Mark
  | _, [] => []
  | escaped, c :: rest =>
    if c = '{' ∨ c = '}' then
      (if escaped then .escaped else if c = '{' then .opening else .closing) :: marks false rest
    else marks (c = Groups.escape) rest

@[simp]
theorem escapesNext_nil (escaped : Bool) : escapesNext escaped [] = escaped := by
  rfl

@[simp]
theorem escapesNext_cons (escaped : Bool) (c : Char) (rest : Text) :
    escapesNext escaped (c :: rest) = escapesNext (c = Groups.escape) rest := by
  cases rest <;> simp [escapesNext, List.getLast?_cons]

@[simp]
theorem escapesNext_append (escaped : Bool) (text later : Text) :
    escapesNext escaped (text ++ later) = escapesNext (escapesNext escaped text) later := by
  induction text generalizing escaped with
  | nil => simp
  | cons c rest ih => simp [ih]

theorem escapesNext_of_ne_nil {text : Text} (nonempty : text ≠ []) (escaped : Bool) :
    escapesNext escaped text = escapesNext false text := by
  cases text with
  | nil => contradiction
  | cons c rest => simp

theorem marks_append (escaped : Bool) (text later : Text) :
    marks escaped (text ++ later) =
      marks escaped text ++ marks (escapesNext escaped text) later := by
  induction text generalizing escaped with
  | nil => simp [marks]
  | cons c rest ih =>
      by_cases brace : c = '{' ∨ c = '}'
      · simp [marks, brace, Groups.ne_escape_of_brace brace, ih]
      · simp [marks, brace, ih]

theorem marks_eq_nil_iff (escaped : Bool) (text : Text) :
    marks escaped text = [] ↔ '{' ∉ text ∧ '}' ∉ text := by
  induction text generalizing escaped with
  | nil => simp [marks]
  | cons c rest ih =>
      by_cases brace : c = '{' ∨ c = '}'
      · simp only [marks, brace, ↓reduceIte, List.cons_ne_nil, List.mem_cons, false_iff]
        rcases brace with rfl | rfl <;> simp
      · obtain ⟨notOpening, notClosing⟩ := not_or.mp brace
        simp [marks, brace, ih, Ne.symm notOpening, Ne.symm notClosing]

theorem exists_last_opening (text : Text) :
    ∀ escaped, (marks escaped text).getLast? = some .opening →
      ∃ lead tail, text = lead ++ '{' :: tail ∧ escapesNext escaped lead = false ∧
        '{' ∉ tail ∧ '}' ∉ tail := by
  induction text with
  | nil => simp [marks]
  | cons c rest ih =>
      intro escaped last
      by_cases brace : c = '{' ∨ c = '}'
      · have next : decide (c = Groups.escape) = false :=
          decide_eq_false (Groups.ne_escape_of_brace brace)
        simp only [marks, brace, ↓reduceIte] at last
        by_cases none : marks false rest = []
        · rw [none, List.getLast?_singleton, Option.some.injEq] at last
          cases escaped with
          | true => simp at last
          | false =>
              have opens : c = '{' := by simpa using last
              subst opens
              exact ⟨[], rest, rfl, rfl, (marks_eq_nil_iff false rest).mp none⟩
        · rw [List.getLast?_cons_of_ne_nil none] at last
          obtain ⟨lead, tail, rfl, plain, braceless⟩ := ih false last
          exact ⟨c :: lead, tail, rfl, by rw [escapesNext_cons, next, plain], braceless⟩
      · simp only [marks, brace, ↓reduceIte] at last
        obtain ⟨lead, tail, rfl, plain, braceless⟩ := ih _ last
        exact ⟨c :: lead, tail, rfl, by rw [escapesNext_cons, plain], braceless⟩

end Text

namespace Mark

/-- Every closing brace comes behind an escaped one. -/
def Shielded (marks : List Mark) : Prop :=
  ∀ between after, marks = between ++ .closing :: after → .escaped ∈ between

def Unpaired (marks : List Mark) : Prop :=
  ∀ before between after, marks = before ++ .opening :: (between ++ .closing :: after) →
    .escaped ∈ between

def Unmatched : (opened : Bool) → List Mark → Prop
  | _, [] => True
  | _, .opening :: rest => Unmatched true rest
  | opened, .closing :: rest => opened = false ∧ Unmatched opened rest
  | _, .escaped :: rest => Unmatched false rest

theorem shielded_cons_iff (mark : Mark) (rest : List Mark) :
    Shielded (mark :: rest) ↔ mark = .escaped ∨ mark = .opening ∧ Shielded rest := by
  constructor
  · intro shielded
    cases mark with
    | opening =>
        refine Or.inr ⟨rfl, ?_⟩
        intro between after same
        simpa using shielded (.opening :: between) after (by rw [same, List.cons_append])
    | closing => simpa using shielded [] rest rfl
    | escaped => exact Or.inl rfl
  · rintro (rfl | ⟨rfl, shielded⟩) between after same
    · rcases List.cons_eq_append_iff.mp same with ⟨_, impossible⟩ | ⟨later, rfl, _⟩
      · cases impossible
      · exact List.mem_cons_self
    · rcases List.cons_eq_append_iff.mp same with ⟨_, impossible⟩ | ⟨later, rfl, tail⟩
      · cases impossible
      · exact List.mem_cons_of_mem _ (shielded later after tail)

theorem unpaired_cons_iff (mark : Mark) (rest : List Mark) :
    Unpaired (mark :: rest) ↔ (mark = .opening → Shielded rest) ∧ Unpaired rest := by
  constructor
  · intro unpaired
    constructor
    · rintro rfl between after same
      exact unpaired [] between after (by rw [same, List.nil_append])
    · intro before between after same
      exact unpaired (mark :: before) between after (by rw [same, List.cons_append])
  · rintro ⟨shielded, unpaired⟩ before between after same
    rcases List.cons_eq_append_iff.mp same with ⟨_, first⟩ | ⟨later, rfl, tail⟩
    · obtain ⟨leading, tail⟩ := List.cons.inj first
      exact shielded leading.symm between after tail.symm
    · exact unpaired later between after tail

theorem unmatched_iff (opened : Bool) (marks : List Mark) :
    Unmatched opened marks ↔ (opened = true → Shielded marks) ∧ Unpaired marks := by
  induction marks generalizing opened with
  | nil => simp [Unmatched, Shielded, Unpaired]
  | cons mark rest ih =>
      rw [shielded_cons_iff, unpaired_cons_iff]
      cases mark <;> cases opened <;> simp [Unmatched, ih]

def leavesOpen (opened : Bool) (marks : List Mark) : Bool :=
  match marks.getLast? with
  | some mark => mark = .opening
  | none => opened

theorem leavesOpen_cons (opened : Bool) (mark : Mark) (rest : List Mark) :
    leavesOpen opened (mark :: rest) = leavesOpen (mark = .opening) rest := by
  cases rest <;> simp [leavesOpen, List.getLast?_cons]

theorem unmatched_append_iff (opened : Bool) (marks later : List Mark) :
    Unmatched opened (marks ++ later) ↔
      Unmatched opened marks ∧ Unmatched (leavesOpen opened marks) later := by
  induction marks generalizing opened with
  | nil => simp [Unmatched, leavesOpen]
  | cons mark rest ih =>
      cases mark with
      | opening => simp [Unmatched, leavesOpen_cons, ih]
      | closing => cases opened <;> simp [Unmatched, leavesOpen_cons, ih]
      | escaped => simp [Unmatched, leavesOpen_cons, ih]

theorem leavesOpen_false_iff (marks : List Mark) :
    leavesOpen false marks = true ↔ marks.getLast? = some .opening := by
  cases last : marks.getLast? <;> simp [leavesOpen, last]

theorem eq_closing_of_matched {opened escaped : Bool} {c : Char}
    (matched : ¬Unmatched opened (Text.marks escaped [c])) :
    opened = true ∧ escaped = false ∧ c = '}' := by
  by_cases brace : c = '{' ∨ c = '}'
  · rcases brace with rfl | rfl <;> cases escaped <;> cases opened <;>
      simp [Text.marks, Unmatched] at matched ⊢
  · simp [Text.marks, brace, Unmatched] at matched

end Mark
end Stencil
