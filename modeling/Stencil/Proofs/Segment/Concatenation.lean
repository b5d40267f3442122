import Stencil.Proofs.Segment.Counting

/-! Compiling two texts side by side is compiling each of them, as long as no group and no escape reaches
across the seam. -/

namespace Stencil

namespace Groups

def EscapedAt (text : Text) (offset : Nat) : Prop :=
  (text[offset]? = some '{' ∨ text[offset]? = some '}') ∧ isEscaped? text offset = some true

instance (text : Text) (offset : Nat) : Decidable (EscapedAt text offset) :=
  inferInstanceAs (Decidable (_ ∧ _))

/-- Every unescaped opening brace opens a group or has an escaped brace somewhere behind it. -/
def LeavesNoneOpen (text : Text) : Prop :=
  ∀ offset < text.length, OpensAt text offset →
    (ofText text)[offset]?.isSome ∨ ∃ later < text.length, offset < later ∧ EscapedAt text later

instance (text : Text) : Decidable (LeavesNoneOpen text) :=
  inferInstanceAs (Decidable (∀ offset < text.length, _))

def EscapesAcross (first second : Text) : Prop :=
  first.getLast? = some escape ∧ (second.head? = some '{' ∨ second.head? = some '}')

instance (first second : Text) : Decidable (EscapesAcross first second) :=
  inferInstanceAs (Decidable (_ ∧ _))

theorem opensAt_length (lead rest : Text) (plain : lead.escapesNext false = false) :
    OpensAt (lead ++ '{' :: rest) lead.length := by
  refine ⟨by simp, ?_⟩
  rw [isEscaped?_append, plain]

theorem exists_of_escapedAt {text : Text} {offset : Nat} (escaped : EscapedAt text offset) :
    ∃ (lead : Text) (c : Char) (rest : Text), text = lead ++ c :: rest ∧ lead.length = offset ∧
      (c = '{' ∨ c = '}') ∧ lead.escapesNext false = true := by
  obtain ⟨brace, escaped⟩ := escaped
  have inside : offset < text.length := by
    rcases brace with opening | closing
    · exact (List.getElem?_eq_some_iff.mp opening).1
    · exact (List.getElem?_eq_some_iff.mp closing).1
  obtain ⟨lead, c, rest, rfl, rfl⟩ := Text.exists_split inside
  rw [isEscaped?_append, Option.some.injEq] at escaped
  exact ⟨lead, c, rest, rfl, rfl, by simpa using brace, escaped⟩

end Groups

namespace Text

theorem escapesNext_false_iff (text : Text) :
    text.escapesNext false = true ↔ text.getLast? = some Groups.escape := by
  rw [escapesNext]
  cases text.getLast? <;> simp

theorem marks_of_plain_head {escaped : Bool} {text : Text}
    (plain : escaped = true → ¬(text.head? = some '{' ∨ text.head? = some '}')) :
    marks escaped text = marks false text := by
  cases text with
  | nil => rfl
  | cons c rest =>
      by_cases brace : c = '{' ∨ c = '}'
      · cases escaped with
        | false => rfl
        | true => exact absurd (by simpa using brace) (plain rfl)
      · simp [marks, brace]

theorem escaped_mem_marks (lead rest : Text) {c : Char} (brace : c = '{' ∨ c = '}')
    (escapes : lead.escapesNext false = true) : .escaped ∈ marks false (lead ++ c :: rest) := by
  rw [marks_append, escapes]
  simp [marks, brace]

theorem escaped_mem_marks_behind {lead tail : Text} {later : Nat} (behind : lead.length < later)
    (escaped : Groups.EscapedAt (lead ++ '{' :: tail) later) : .escaped ∈ marks false tail := by
  obtain ⟨front, c, rest, split, rfl, brace, escapes⟩ := Groups.exists_of_escapedAt escaped
  rcases List.append_eq_append_iff.mp split with ⟨between, rfl, same⟩ | ⟨between, rfl, _⟩
  · cases between with
    | nil => simp at behind
    | cons first between =>
        obtain ⟨rfl, rfl⟩ := List.cons.inj same
        refine escaped_mem_marks between rest brace ?_
        simpa [Groups.escape] using escapes
  · rw [List.length_append] at behind
    omega

end Text

namespace Segment

open Groups

theorem Describes.behind {groups : Groups} {front rest : List Segment} :
    ∀ {offset}, Describes groups offset (front ++ rest) →
      Describes groups (offset + (sourceAll front).length) rest := by
  induction front using sequenceInduction with
  | nil => simp
  | literal text tail ih =>
      intro offset describes
      have behind := ih describes.after_literal
      simpa [Nat.add_assoc] using behind
  | placeholder children tail _ ih =>
      intro offset describes
      have behind := ih describes.after_placeholder
      have length : offset + (sourceAll (.placeholder children :: tail)).length =
          offset + (sourceAll children).length + 2 + (sourceAll tail).length := by
        simp only [sourceAll_placeholder_cons, List.length_cons, List.length_append]
        omega
      rwa [length]

theorem escaped_not_mem_marks_sourceAll (segments : List Segment) :
    Tidy segments → Braceless segments → .escaped ∉ (sourceAll segments).marks false := by
  induction segments using sequenceInduction with
  | nil => simp [Text.marks]
  | literal text rest ih =>
      intro tidy braceless
      obtain ⟨_, restTidy, fits⟩ := (tidy_cons_iff _ _).mp tidy
      have none := (Text.marks_eq_nil_iff false text).mpr (braceless text List.mem_cons_self)
      have restFree := ih restTidy fun other member =>
        braceless other (List.mem_cons_of_mem _ member)
      rw [sourceAll_literal_cons, Text.marks_append, none, List.nil_append]
      cases rest with
      | nil => simp [Text.marks]
      | cons next others =>
          have plain : text.escapesNext false = false :=
            (fits next rfl).2 (fits next rfl).isPlaceholder_after_literal
          rwa [plain]
  | placeholder children rest childrenIH restIH =>
      intro tidy braceless
      obtain ⟨own, restTidy, _⟩ := (tidy_cons_iff _ _).mp tidy
      obtain ⟨childrenTidy, childrenBraceless, plain⟩ := (tidy_placeholder_iff children).mp own
      have restFree := restIH restTidy fun other member =>
        braceless other (List.mem_cons_of_mem _ member)
      rw [sourceAll_placeholder_cons, Text.marks]
      simp [Text.marks_append, (endsPlain_iff childrenTidy).mp plain, Text.marks,
        childrenIH childrenTidy childrenBraceless, restFree]

theorem leavesOpen_of_leavesNoneOpen {segments : List Segment} (formed : WellFormed segments)
    (closed : LeavesNoneOpen (sourceAll segments)) :
    Mark.leavesOpen false (marksAll segments) = false := by
  rw [Bool.eq_false_iff]
  intro opened
  obtain ⟨before, lead, tail, after, rfl, leadPlain, braceless⟩ :=
    exists_last_opening segments ((Mark.leavesOpen_false_iff _).mp opened)
  let front := sourceAll (before ++ ofText lead)
  have split : sourceAll (before ++ .literal (lead ++ '{' :: tail) :: after) =
      front ++ '{' :: sourceAll (ofText tail ++ after) := by
    simp [front, sourceAll_append]
  obtain ⟨frontTidy, frontPlain⟩ := tidy_before_opening formed.toTidy leadPlain
  have opens : OpensAt (front ++ '{' :: sourceAll (ofText tail ++ after)) front.length :=
    opensAt_length _ _ ((endsPlain_iff frontTidy).mp frontPlain)
  have describes := describes_ofText formed
  rw [split] at closed describes
  rcases closed front.length (by simp) opens with entered | ⟨later, _, behind, escaped⟩
  · have inLiteral : (Groups.ofText (front ++ '{' :: sourceAll (ofText tail ++ after)))[front.length]? =
        none := by
      apply describes.behind.none_in_literal
      · simp [front, sourceAll_append]
      · simp [front, sourceAll_append]
    rw [inLiteral] at entered
    cases entered
  · exact escaped_not_mem_marks_sourceAll _ (tidy_after_opening formed.toTidy) braceless
      (Text.escaped_mem_marks_behind behind escaped)

theorem marksAll_join {left right : List Segment} (leftTidy : Tidy left) (rightTidy : Tidy right)
    (apart : ¬EscapesAcross (sourceAll left) (sourceAll right)) :
    marksAll (join left right) = marksAll left ++ marksAll right := by
  rcases join_cases left right with ⟨init, text, other, rest, rfl, rfl⟩ | ⟨_, same⟩
  · have nonempty : other ≠ [] :=
      (tidy_literal_iff other).mp ((tidy_cons_iff _ _).mp rightTidy).1
    have head : (sourceAll (.literal other :: rest)).head? = other.head? := by
      rw [sourceAll_literal_cons, List.head?_append_of_ne_nil _ nonempty]
    have kept : other.marks (text.escapesNext false) = other.marks false := by
      refine Text.marks_of_plain_head fun escapes brace => apart ⟨?_, ?_⟩
      · rw [← Text.escapesNext_false_iff, escapesNext_sourceAll_concat leftTidy]
        exact escapes
      · rwa [head]
    simp [join_literals, marksAll_append, marksAll, Text.marks_append, kept]
  · rw [same, marksAll_append]

theorem head?_sourceAll_of_isPlaceholder {segments : List Segment} {first : Segment}
    (isFirst : first ∈ segments.head?) (isPlaceholder : first.isPlaceholder) :
    (sourceAll segments).head? = some '{' := by
  cases segments with
  | nil => cases isFirst
  | cons segment rest =>
      cases isFirst
      cases first with
      | literal text => cases isPlaceholder
      | placeholder children => simp

/-- Two well-formed sequences join to one if no escape reaches across the seam and no brace behind it closes
one that stands open before it. -/
theorem wellFormed_join {left right : List Segment} (leftFormed : WellFormed left)
    (rightFormed : WellFormed right) (apart : ¬EscapesAcross (sourceAll left) (sourceAll right))
    (unmatched : Mark.Unmatched (Mark.leavesOpen false (marksAll left)) (marksAll right)) :
    WellFormed (join left right) := by
  obtain ⟨leftTidy, leftUnmatched⟩ := (wellFormed_iff left).mp leftFormed
  have rightTidy := rightFormed.toTidy
  refine (wellFormed_iff _).mpr ⟨tidy_join leftTidy rightTidy ?_, ?_⟩
  · intro last isLast first isFirst isPlaceholder
    have plain : (sourceAll left).escapesNext false = false := by
      rw [Bool.eq_false_iff, Ne, Text.escapesNext_false_iff]
      exact fun escapes =>
        apart ⟨escapes, Or.inl (head?_sourceAll_of_isPlaceholder isFirst isPlaceholder)⟩
    exact (endsPlain_iff leftTidy).mpr plain last isLast
  · rw [marksAll_join leftTidy rightTidy apart]
    exact (Mark.unmatched_append_iff false _ _).mpr ⟨leftUnmatched, unmatched⟩

theorem compile_append {first second : Text} (apart : ¬EscapesAcross first second)
    (unmatched : Mark.Unmatched (Mark.leavesOpen false (marksAll (compile first)))
      (marksAll (compile second))) :
    compile (first ++ second) = join (compile first) (compile second) := by
  have apart : ¬EscapesAcross (sourceAll (compile first)) (sourceAll (compile second)) := by
    rwa [sourceAll_compile, sourceAll_compile]
  have formed := wellFormed_join (wellFormed_compile first) (wellFormed_compile second) apart
    unmatched
  have compiled := compile_sourceAll formed
  rwa [sourceAll_join, sourceAll_compile, sourceAll_compile] at compiled

theorem compile_append_of_leavesNoneOpen {first second : Text} (closed : LeavesNoneOpen first)
    (apart : ¬EscapesAcross first second) :
    compile (first ++ second) = join (compile first) (compile second) := by
  have none : Mark.leavesOpen false (marksAll (compile first)) = false :=
    leavesOpen_of_leavesNoneOpen (wellFormed_compile first) (by rwa [sourceAll_compile])
  refine compile_append apart ?_
  rw [none]
  exact ((wellFormed_iff _).mp (wellFormed_compile second)).2

end Segment

end Stencil
