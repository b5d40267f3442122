import Mathlib.Data.List.Induction
import Stencil.Proofs.Segment.Assembly

/-! Compiling and writing are inverse to each other: every text is the source of exactly one
well-formed sequence, and compiling finds it. -/

namespace Stencil
namespace Segment

def ofText (text : Text) : List Segment :=
  if text = [] then [] else [.literal text]

def join (left right : List Segment) : List Segment :=
  match left.getLast?, right with
  | some (.literal text), .literal other :: rest =>
    left.dropLast ++ .literal (text ++ other) :: rest
  | _, _ => left ++ right

@[simp]
theorem sourceAll_ofText (text : Text) : sourceAll (ofText text) = text := by
  by_cases empty : text = [] <;> simp [ofText, empty]

theorem marksAll_append (left right : List Segment) :
    marksAll (left ++ right) = marksAll left ++ marksAll right := by
  induction left using sequenceInduction with
  | nil => rfl
  | literal text rest ih => simp [marksAll, ih]
  | placeholder children rest _ ih => simp [marksAll, ih]

@[simp]
theorem marksAll_ofText (text : Text) : marksAll (ofText text) = text.marks false := by
  by_cases empty : text = [] <;> simp [ofText, empty, marksAll, Text.marks]

theorem endsEscaping_of_isPlaceholder {segment : Segment} (isPlaceholder : segment.isPlaceholder) :
    segment.endsEscaping = false := by
  cases segment with
  | literal text => cases isPlaceholder
  | placeholder children => rfl

theorem join_literals (init rest : List Segment) (text other : Text) :
    join (init ++ [.literal text]) (.literal other :: rest) =
      init ++ .literal (text ++ other) :: rest := by
  simp [join]

theorem join_cases (left right : List Segment) :
    (∃ init text other rest, left = init ++ [.literal text] ∧ right = .literal other :: rest) ∨
      (∀ last ∈ left.getLast?, ∀ first ∈ right.head?, last.isPlaceholder ∨ first.isPlaceholder) ∧
        join left right = left ++ right := by
  rcases List.eq_nil_or_concat' left with rfl | ⟨init, last, rfl⟩
  · exact Or.inr ⟨by simp, by simp [join]⟩
  · cases right with
    | nil => exact Or.inr ⟨by simp, by simp [join]⟩
    | cons first rest =>
        cases last with
        | placeholder children => exact Or.inr ⟨by simp [isPlaceholder], by simp [join]⟩
        | literal text =>
            cases first with
            | literal other => exact Or.inl ⟨init, text, other, rest, rfl, rfl⟩
            | placeholder children => exact Or.inr ⟨by simp [isPlaceholder], by simp [join]⟩

theorem sourceAll_join (left right : List Segment) :
    sourceAll (join left right) = sourceAll left ++ sourceAll right := by
  rcases join_cases left right with ⟨init, text, other, rest, rfl, rfl⟩ | ⟨_, same⟩
  · simp [join_literals, sourceAll_append]
  · rw [same, sourceAll_append]

theorem tidy_join {left right : List Segment} (leftTidy : Tidy left) (rightTidy : Tidy right)
    (plain : ∀ last ∈ left.getLast?, ∀ first ∈ right.head?,
      first.isPlaceholder → last.endsEscaping = false) : Tidy (join left right) := by
  rcases join_cases left right with ⟨init, text, other, rest, rfl, rfl⟩ | ⟨apart, same⟩
  · obtain ⟨initTidy, _, initFits⟩ := (tidy_append_iff _ _).mp leftTidy
    obtain ⟨otherTidy, restTidy, restFits⟩ := (tidy_cons_iff _ _).mp rightTidy
    have nonempty : other ≠ [] := (tidy_literal_iff other).mp otherTidy
    rw [join_literals]
    refine (tidy_append_iff _ _).mpr ⟨initTidy, (tidy_cons_iff _ _).mpr ⟨?_, restTidy, ?_⟩, ?_⟩
    · simpa [tidy_literal_iff] using fun _ => nonempty
    · intro next isNext
      obtain ⟨apart, plain⟩ := restFits next isNext
      refine ⟨apart, fun isPlaceholder => ?_⟩
      rw [endsEscaping, Text.escapesNext_append, Text.escapesNext_of_ne_nil nonempty]
      exact plain isPlaceholder
    · intro last isLast first isFirst
      obtain ⟨apart, _⟩ := initFits last isLast _ rfl
      cases isFirst
      refine ⟨apart, ?_⟩
      intro impossible
      cases impossible
  · rw [same]
    exact (tidy_append_iff _ _).mpr ⟨leftTidy, rightTidy, fun last isLast first isFirst =>
      ⟨apart last isLast first isFirst, plain last isLast first isFirst⟩⟩

theorem marksAll_join_literal {left : List Segment} (tidy : Tidy left) (text : Text) :
    marksAll (join left [.literal text]) =
      marksAll left ++ text.marks ((sourceAll left).escapesNext false) := by
  rcases List.eq_nil_or_concat' left with rfl | ⟨init, last, rfl⟩
  · simp [join, marksAll]
  · rw [escapesNext_sourceAll_concat tidy]
    cases last with
    | literal other =>
        simp [join_literals, marksAll_append, marksAll, Text.marks_append, endsEscaping]
    | placeholder children => simp [join, marksAll_append, marksAll, endsEscaping]

theorem braceless_ofText_append_iff (text : Text) (rest : List Segment) :
    Braceless (ofText text ++ rest) ↔ ('{' ∉ text ∧ '}' ∉ text) ∧ Braceless rest := by
  by_cases empty : text = []
  · simp [ofText, empty]
  · simp [ofText, empty, Braceless]

theorem exists_last_opening (segments : List Segment) :
    (marksAll segments).getLast? = some .opening →
      ∃ before lead tail after, segments = before ++ .literal (lead ++ '{' :: tail) :: after ∧
        lead.escapesNext false = false ∧ Braceless (ofText tail ++ after) := by
  induction segments using sequenceInduction with
  | nil => simp [marksAll]
  | literal text rest ih =>
      intro last
      by_cases none : marksAll rest = []
      · rw [marksAll, none, List.append_nil] at last
        obtain ⟨lead, tail, rfl, plain, braceless⟩ := Text.exists_last_opening text false last
        exact ⟨[], lead, tail, rest, rfl, plain, (braceless_ofText_append_iff tail rest).mpr
          ⟨braceless, (marksAll_eq_nil_iff rest).mp none⟩⟩
      · rw [marksAll, List.getLast?_append_of_ne_nil _ none] at last
        obtain ⟨before, lead, tail, after, rfl, found⟩ := ih last
        exact ⟨.literal text :: before, lead, tail, after, rfl, found⟩
  | placeholder children rest _ ih =>
      intro last
      obtain ⟨before, lead, tail, after, rfl, found⟩ := ih last
      exact ⟨.placeholder children :: before, lead, tail, after, rfl, found⟩

theorem tidy_before_opening {before after : List Segment} {lead tail : Text}
    (tidy : Tidy (before ++ .literal (lead ++ '{' :: tail) :: after))
    (plain : lead.escapesNext false = false) :
    Tidy (before ++ ofText lead) ∧ EndsPlain (before ++ ofText lead) := by
  obtain ⟨beforeTidy, _, fits⟩ := (tidy_append_iff _ _).mp tidy
  have placeholders : ∀ last ∈ before.getLast?, last.isPlaceholder := fun last isLast =>
    (fits last isLast _ rfl).1.resolve_right (by simp [isPlaceholder])
  by_cases empty : lead = []
  · rw [ofText, if_pos empty, List.append_nil]
    exact ⟨beforeTidy, fun last isLast =>
      endsEscaping_of_isPlaceholder (placeholders last isLast)⟩
  · rw [ofText, if_neg empty]
    refine ⟨(tidy_append_iff _ _).mpr ⟨beforeTidy, (tidy_literal_iff lead).mpr empty, ?_⟩, ?_⟩
    · intro last isLast first isFirst
      cases isFirst
      refine ⟨Or.inl (placeholders last isLast), ?_⟩
      intro impossible
      cases impossible
    · intro last isLast
      rw [List.getLast?_concat] at isLast
      cases isLast
      exact plain

theorem tidy_after_opening {before after : List Segment} {lead tail : Text}
    (tidy : Tidy (before ++ .literal (lead ++ '{' :: tail) :: after)) :
    Tidy (ofText tail ++ after) := by
  obtain ⟨_, restTidy, _⟩ := (tidy_append_iff _ _).mp tidy
  obtain ⟨_, afterTidy, fits⟩ := (tidy_cons_iff _ _).mp restTidy
  by_cases empty : tail = []
  · simpa [ofText, empty] using afterTidy
  · rw [ofText, if_neg empty]
    refine (tidy_cons_iff _ _).mpr ⟨(tidy_literal_iff tail).mpr empty, afterTidy, ?_⟩
    intro next isNext
    obtain ⟨apart, plain⟩ := fits next isNext
    refine ⟨apart, fun isPlaceholder => ?_⟩
    have ends := plain isPlaceholder
    rw [endsEscaping, Text.escapesNext_append, Text.escapesNext_cons] at ends
    rwa [endsEscaping, ← Text.escapesNext_of_ne_nil empty]

/-- A closing brace turns what stands behind the last opening one into a placeholder. -/
theorem wellFormed_close {before after : List Segment} {lead tail : Text}
    (formed : WellFormed (before ++ .literal (lead ++ '{' :: tail) :: after))
    (leadPlain : lead.escapesNext false = false)
    (braceless : Braceless (ofText tail ++ after))
    (plain : (sourceAll (before ++ .literal (lead ++ '{' :: tail) :: after)).escapesNext false =
      false) :
    WellFormed (before ++ ofText lead ++ [.placeholder (ofText tail ++ after)]) := by
  obtain ⟨tidy, unmatched⟩ := (wellFormed_iff _).mp formed
  obtain ⟨frontTidy, frontPlain⟩ := tidy_before_opening tidy leadPlain
  have insideTidy := tidy_after_opening tidy
  have insidePlain : EndsPlain (ofText tail ++ after) := by
    rw [endsPlain_iff insideTidy]
    simpa [sourceAll_append, Groups.escape] using plain
  have frontMarks : marksAll (before ++ .literal (lead ++ '{' :: tail) :: after) =
      marksAll (before ++ ofText lead) ++ (Text.marks false ('{' :: tail) ++ marksAll after) := by
    simp [marksAll_append, marksAll, Text.marks_append, leadPlain]
  rw [frontMarks, Mark.unmatched_append_iff] at unmatched
  refine (wellFormed_iff _).mpr ⟨(tidy_append_iff _ _).mpr ⟨frontTidy, ?_, ?_⟩, ?_⟩
  · exact (tidy_placeholder_iff _).mpr ⟨insideTidy, braceless, insidePlain⟩
  · intro last isLast first isFirst
    cases isFirst
    exact ⟨Or.inr rfl, fun _ => frontPlain last isLast⟩
  · simpa [marksAll_append, marksAll] using unmatched.1

theorem exists_wellFormed_concat {segments : List Segment} (formed : WellFormed segments) (c : Char) :
    ∃ grown, WellFormed grown ∧ sourceAll grown = sourceAll segments ++ [c] := by
  obtain ⟨tidy, unmatched⟩ := (wellFormed_iff segments).mp formed
  have joined : Tidy (join segments [.literal [c]]) :=
    tidy_join tidy ((tidy_literal_iff [c]).mpr (by simp)) fun _ _ first isFirst placeholder => by
      cases isFirst
      cases placeholder
  by_cases stays : Mark.Unmatched false (marksAll (join segments [.literal [c]]))
  · exact ⟨join segments [.literal [c]], (wellFormed_iff _).mpr ⟨joined, stays⟩,
      by simp [sourceAll_join]⟩
  · -- only a closing brace can make a pair with what came before, and then with the last brace of it
    rw [marksAll_join_literal tidy, Mark.unmatched_append_iff] at stays
    obtain ⟨opened, plain, rfl⟩ := Mark.eq_closing_of_matched fun closes =>
      stays ⟨unmatched, closes⟩
    obtain ⟨before, lead, tail, after, rfl, leadPlain, braceless⟩ :=
      exists_last_opening segments ((Mark.leavesOpen_false_iff _).mp opened)
    refine ⟨_, wellFormed_close formed leadPlain braceless plain, ?_⟩
    simp [sourceAll_append]

theorem exists_wellFormed (text : Text) :
    ∃ segments, WellFormed segments ∧ sourceAll segments = text := by
  induction text using List.reverseRecOn with
  | nil => exact ⟨[], (wellFormed_iff []).mpr ⟨tidy_nil, trivial⟩, rfl⟩
  | append_singleton text c ih =>
      obtain ⟨segments, formed, rfl⟩ := ih
      exact exists_wellFormed_concat formed c

theorem wellFormed_compile (text : Text) : WellFormed (compile text) := by
  obtain ⟨segments, formed, rfl⟩ := exists_wellFormed text
  rw [compile_sourceAll formed]
  exact formed

theorem sourceAll_compile (text : Text) : sourceAll (compile text) = text := by
  obtain ⟨segments, formed, rfl⟩ := exists_wellFormed text
  rw [compile_sourceAll formed]

/-- Compiling the written text of a sequence gives the sequence back exactly if it is well formed, and
what compiling gives always is. -/
theorem compile_write_eq_self_iff_wellFormed :
    (∀ segments, compile (write segments) = segments ↔ WellFormed segments) ∧
      ∀ text, WellFormed (compile text) := by
  refine ⟨?_, wellFormed_compile⟩
  intro segments
  rw [write_eq_sourceAll]
  constructor
  · intro same
    rw [← same]
    exact wellFormed_compile _
  · exact compile_sourceAll

/-- Writing what a text compiles to gives the text back. Writing any sequence, compiled or not, is the
recursive flattening of it, and puts the segments' own texts side by side. -/
theorem write_compile_and_write_eq_flatten :
    (∀ text, write (compile text) = text) ∧
      ∀ segments, write segments = sourceAll segments ∧
        write segments = segments.flatMap ownSource := by
  constructor
  · intro text
    rw [write_eq_sourceAll, sourceAll_compile]
  · intro segments
    exact ⟨write_eq_sourceAll segments, write_eq_flatMap_ownSource segments⟩

end Segment
end Stencil
