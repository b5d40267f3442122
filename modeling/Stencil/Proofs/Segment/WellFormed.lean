import Mathlib.Data.List.Chain
import Stencil.Proofs.Segment.Braces
import Stencil.Proofs.Segment.Source

/-! Well-formed sequences: those whose source shows each literal and each placeholder for what it is. -/

namespace Stencil
namespace Segment

def endsEscaping : Segment → Bool
  | .literal text => text.escapesNext false
  | .placeholder _ => false

def Separated (segments : List Segment) : Prop :=
  (∀ text, .literal text ∈ segments → text ≠ []) ∧
    segments.IsChain fun left right => left.isPlaceholder ∨ right.isPlaceholder

def Braceless (segments : List Segment) : Prop :=
  ∀ text, .literal text ∈ segments → '{' ∉ text ∧ '}' ∉ text

def Unescaping (segments : List Segment) : Prop :=
  segments.IsChain fun left right => right.isPlaceholder → left.endsEscaping = false

def EndsPlain (segments : List Segment) : Prop :=
  ∀ last ∈ segments.getLast?, last.endsEscaping = false

mutual

/-- Whether the children of every placeholder, at any depth, have a property. -/
def Inside (property : List Segment → Prop) : Segment → Prop
  | .literal _ => True
  | .placeholder children => property children ∧ InsideAll property children

def InsideAll (property : List Segment → Prop) : List Segment → Prop
  | [] => True
  | segment :: rest => segment.Inside property ∧ InsideAll property rest

end

def marksAll : List Segment → List Mark
  | [] => []
  | .literal text :: rest => text.marks false ++ marksAll rest
  | .placeholder _ :: rest => marksAll rest

structure Interior (children : List Segment) : Prop where
  separated : Separated children
  braceless : Braceless children
  unescaping : Unescaping children
  plain : EndsPlain children

/-- Well-formed but for the braces in the literals of the sequence itself. -/
structure Tidy (segments : List Segment) : Prop where
  separated : Separated segments
  unescaping : Unescaping segments
  inside : InsideAll Interior segments

/-- Literals are separated at every level. Inside placeholders they hold no brace, and nowhere do they
escape a brace of a placeholder. In the sequence itself no two of their braces make a pair. -/
structure WellFormed (segments : List Segment) : Prop extends Tidy segments where
  unpaired : Mark.Unpaired (marksAll segments)

def Fits (left right : Segment) : Prop :=
  (left.isPlaceholder ∨ right.isPlaceholder) ∧ (right.isPlaceholder → left.endsEscaping = false)

theorem Fits.isPlaceholder_after_literal {text : Text} {next : Segment}
    (fits : Fits (.literal text) next) : next.isPlaceholder :=
  fits.1.resolve_left (by simp [isPlaceholder])

theorem wellFormed_iff (segments : List Segment) :
    WellFormed segments ↔ Tidy segments ∧ Mark.Unmatched false (marksAll segments) := by
  rw [Mark.unmatched_iff]
  constructor
  · intro formed
    exact ⟨formed.toTidy, by simp, formed.unpaired⟩
  · rintro ⟨tidy, _, unpaired⟩
    exact ⟨tidy, unpaired⟩

theorem insideAll_append_iff (property : List Segment → Prop) (left right : List Segment) :
    InsideAll property (left ++ right) ↔ InsideAll property left ∧ InsideAll property right := by
  induction left with
  | nil => simp [InsideAll]
  | cons segment rest ih => simp [InsideAll, ih, and_assoc]

theorem tidy_nil : Tidy [] := by
  refine ⟨⟨?_, .nil⟩, .nil, trivial⟩
  simp

theorem tidy_literal_iff (text : Text) : Tidy [.literal text] ↔ text ≠ [] := by
  constructor
  · intro tidy
    exact tidy.separated.1 text List.mem_cons_self
  · intro nonempty
    refine ⟨⟨?_, .singleton _⟩, .singleton _, trivial, trivial⟩
    simpa using nonempty

theorem tidy_placeholder_iff (children : List Segment) :
    Tidy [.placeholder children] ↔ Tidy children ∧ Braceless children ∧ EndsPlain children := by
  constructor
  · intro tidy
    obtain ⟨⟨interior, inside⟩, _⟩ := tidy.inside
    exact ⟨⟨interior.separated, interior.unescaping, inside⟩, interior.braceless, interior.plain⟩
  · rintro ⟨tidy, braceless, plain⟩
    refine ⟨⟨?_, .singleton _⟩, .singleton _, ?_, trivial⟩
    · simp
    · exact ⟨⟨tidy.separated, braceless, tidy.unescaping, plain⟩, tidy.inside⟩

theorem tidy_append_iff (left right : List Segment) :
    Tidy (left ++ right) ↔ Tidy left ∧ Tidy right ∧
      ∀ last ∈ left.getLast?, ∀ first ∈ right.head?, Fits last first := by
  constructor
  · rintro ⟨⟨nonempty, separated⟩, unescaping, inside⟩
    obtain ⟨leftSeparated, rightSeparated, apart⟩ := List.isChain_append.mp separated
    obtain ⟨leftUnescaping, rightUnescaping, plain⟩ := List.isChain_append.mp unescaping
    obtain ⟨leftInside, rightInside⟩ := (insideAll_append_iff Interior left right).mp inside
    refine ⟨⟨⟨?_, leftSeparated⟩, leftUnescaping, leftInside⟩,
      ⟨⟨?_, rightSeparated⟩, rightUnescaping, rightInside⟩, ?_⟩
    · exact fun text member => nonempty text (List.mem_append_left right member)
    · exact fun text member => nonempty text (List.mem_append_right left member)
    · exact fun last isLast first isFirst =>
        ⟨apart last isLast first isFirst, plain last isLast first isFirst⟩
  · rintro ⟨leftTidy, rightTidy, fits⟩
    refine ⟨⟨?_, ?_⟩, ?_, ?_⟩
    · intro text member
      rcases List.mem_append.mp member with inLeft | inRight
      · exact leftTidy.separated.1 text inLeft
      · exact rightTidy.separated.1 text inRight
    · exact List.isChain_append.mpr ⟨leftTidy.separated.2, rightTidy.separated.2,
        fun last isLast first isFirst => (fits last isLast first isFirst).1⟩
    · exact List.isChain_append.mpr ⟨leftTidy.unescaping, rightTidy.unescaping,
        fun last isLast first isFirst => (fits last isLast first isFirst).2⟩
    · exact (insideAll_append_iff Interior left right).mpr ⟨leftTidy.inside, rightTidy.inside⟩

theorem tidy_cons_iff (segment : Segment) (rest : List Segment) :
    Tidy (segment :: rest) ↔
      Tidy [segment] ∧ Tidy rest ∧ ∀ next ∈ rest.head?, Fits segment next := by
  simpa using tidy_append_iff [segment] rest

theorem marksAll_eq_nil_iff (segments : List Segment) :
    marksAll segments = [] ↔ Braceless segments := by
  induction segments using sequenceInduction with
  | nil => simp [marksAll, Braceless]
  | literal text rest ih =>
      simp only [marksAll, List.append_eq_nil_iff, Text.marks_eq_nil_iff, ih]
      simp [Braceless]
  | placeholder children rest _ ih =>
      simp only [marksAll, ih]
      simp [Braceless]

theorem escapesNext_sourceAll_concat {init : List Segment} {last : Segment}
    (tidy : Tidy (init ++ [last])) :
    (sourceAll (init ++ [last])).escapesNext false = last.endsEscaping := by
  rw [sourceAll_append, Text.escapesNext_append]
  cases last with
  | literal text =>
      have nonempty : text ≠ [] :=
        (tidy_literal_iff text).mp ((tidy_append_iff init [.literal text]).mp tidy).2.1
      simp [endsEscaping, Text.escapesNext_of_ne_nil nonempty]
  | placeholder children => simp [endsEscaping, Groups.escape]

theorem endsPlain_iff {segments : List Segment} (tidy : Tidy segments) :
    EndsPlain segments ↔ (sourceAll segments).escapesNext false = false := by
  rcases List.eq_nil_or_concat' segments with rfl | ⟨init, last, rfl⟩
  · simp [EndsPlain]
  · rw [escapesNext_sourceAll_concat tidy]
    simp [EndsPlain]

end Segment
end Stencil
