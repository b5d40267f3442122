import Stencil.Proofs.Segment.Reparse

/-! Compiling in one pass is cutting a text at its outermost placeholders and compiling what is inside
them, each as a text of its own. -/

namespace Stencil

theorem Text.slice_append (before middle after : Text) {start stop : Nat}
    (starts : start = before.length) (stops : stop = before.length + middle.length) :
    (before ++ middle ++ after).slice start stop = middle := by
  subst starts stops
  simp [slice]

namespace Segment

/-- Cuts a text from a position on: literals between the spans and after them, and for each span a
placeholder of what `inner` gives for the text between its braces. -/
def cut (inner : Text → List Segment) (text : Text) : (position : Nat) → List Span → List Segment
  | position, [] => ofText (text.drop position)
  | position, span :: rest =>
    ofText (text.slice position span.start) ++
      .placeholder (inner (text.slice (span.start + 1) (span.stop - 1))) ::
        cut inner text span.stop rest

theorem wellFormed_children {children : List Segment} (tidy : Tidy [.placeholder children]) :
    WellFormed children := by
  obtain ⟨childrenTidy, braceless, _⟩ := (tidy_placeholder_iff children).mp tidy
  rw [wellFormed_iff, (marksAll_eq_nil_iff children).mpr braceless]
  exact ⟨childrenTidy, trivial⟩

theorem cut_sourceAll (segments : List Segment) :
    Tidy segments → ∀ before lead,
      (lead = [] ∨ ∀ first ∈ segments.head?, first.isPlaceholder) →
      cut compile (before ++ lead ++ sourceAll segments) before.length
        (outermost (before.length + lead.length) segments) = ofText lead ++ segments := by
  induction segments using sequenceInduction with
  | nil =>
      intro _ before lead _
      simp [outermost, cut]
  | literal text rest ih =>
      intro tidy before lead ready
      obtain ⟨own, restTidy, fits⟩ := (tidy_cons_iff _ _).mp tidy
      have nonempty : text ≠ [] := (tidy_literal_iff text).mp own
      have empty : lead = [] := ready.resolve_right (by simp [isPlaceholder])
      subst empty
      have rest := ih restTidy before text
        (Or.inr fun next isNext => (fits next isNext).isPlaceholder_after_literal)
      simpa [outermost, ofText, nonempty] using rest
  | placeholder children rest _ ih =>
      intro tidy before lead _
      obtain ⟨own, restTidy, _⟩ := (tidy_cons_iff _ _).mp tidy
      let start := before.length + lead.length
      let stop := start + (sourceAll children).length + 2
      let whole := before ++ lead ++ sourceAll (.placeholder children :: rest)
      have gap : Text.slice whole before.length start = lead :=
        Text.slice_append before lead _ rfl rfl
      have interior : Text.slice whole (start + 1) (stop - 1) = sourceAll children := by
        have split : whole = before ++ lead ++ ['{'] ++ sourceAll children ++
            '}' :: sourceAll rest := by
          simp [whole]
        rw [split]
        apply Text.slice_append
        · simp [start]
          omega
        · simp [start, stop]
          omega
      have later : cut compile whole stop (outermost stop rest) = rest := by
        let passed := before ++ lead ++ '{' :: (sourceAll children ++ ['}'])
        have length : stop = passed.length := by
          simp [passed, start, stop]
          omega
        have split : whole = passed ++ [] ++ sourceAll rest := by
          simp [whole, passed]
        rw [split, length]
        exact ih restTidy passed [] (Or.inl rfl)
      rw [outermost, cut]
      change ofText (Text.slice whole before.length start) ++
        .placeholder (compile (Text.slice whole (start + 1) (stop - 1))) ::
          cut compile whole stop (outermost stop rest) = _
      rw [gap, interior, later, compile_sourceAll (wellFormed_children own)]

theorem compile_eq_cut (text : Text) : compile text = cut compile text 0 (outermostSpans text) := by
  obtain ⟨segments, formed, rfl⟩ := exists_wellFormed text
  have whole := cut_sourceAll segments formed.toTidy [] [] (Or.inl rfl)
  rw [compile_sourceAll formed, outermostSpans_sourceAll formed]
  simpa [ofText] using whole.symm

theorem interior_length_lt {text : Text} {span : Span} (member : span ∈ outermostSpans text) :
    (text.slice (span.start + 1) (span.stop - 1)).length < text.length := by
  obtain ⟨segments, formed, rfl⟩ := exists_wellFormed text
  rw [outermostSpans_sourceAll formed] at member
  have bounds := bounds_of_mem_spansAll (outermost_subset_spansAll segments 0 member)
  rw [Text.slice, List.length_take, List.length_drop]
  omega

theorem cut_congr {first second : Text → List Segment} {text : Text} (spans : List Span) :
    (∀ span ∈ spans, first (text.slice (span.start + 1) (span.stop - 1)) =
      second (text.slice (span.start + 1) (span.stop - 1))) →
    ∀ position, cut first text position spans = cut second text position spans := by
  induction spans with
  | nil => simp [cut]
  | cons span rest ih =>
      intro agree position
      have head := agree span List.mem_cons_self
      have tail := ih (fun other member => agree other (List.mem_cons_of_mem span member)) span.stop
      rw [cut, cut, head, tail]

/-- Compiling is cutting at the outermost spans and compiling each interior as a text of its own, and it
is the only function of which this is true. -/
theorem compile_unique_cut :
    (∀ text, compile text = cut compile text 0 (outermostSpans text)) ∧
      ∀ other : Text → List Segment,
        (∀ text, other text = cut other text 0 (outermostSpans text)) ↔ other = compile := by
  refine ⟨compile_eq_cut, ?_⟩
  intro other
  constructor
  · intro solves
    have agrees (size : Nat) : ∀ text : Text, text.length = size → other text = compile text := by
      induction size using Nat.strongRecOn with
      | ind size ih =>
          intro text length
          rw [solves, compile_eq_cut]
          apply cut_congr
          intro span member
          exact ih _ (length ▸ interior_length_lt member) _ rfl
    funext text
    exact agrees text.length text rfl
  · rintro rfl
    exact compile_eq_cut

end Segment
end Stencil
