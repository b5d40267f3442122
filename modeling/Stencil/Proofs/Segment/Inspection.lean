import Stencil.Proofs.Segment.Cutting

/-! The placeholders that inspecting a text lists are those at the top of the sequence it compiles to. -/

namespace Stencil

namespace Segment

theorem outermost_append (left right : List Segment) :
    ∀ offset, outermost offset (left ++ right) =
      outermost offset left ++ outermost (offset + (sourceAll left).length) right := by
  induction left using sequenceInduction with
  | nil => simp [outermost]
  | literal text rest ih =>
      intro offset
      simp [outermost, ih, Nat.add_assoc]
  | placeholder children rest _ ih =>
      intro offset
      have stop : offset + (sourceAll (.placeholder children :: rest)).length =
          offset + (sourceAll children).length + 2 + (sourceAll rest).length := by
        simp only [sourceAll_placeholder_cons, List.length_cons, List.length_append]
        omega
      rw [List.cons_append, outermost, outermost, ih, stop, List.cons_append]

theorem length_outermost (segments : List Segment) :
    ∀ offset, (outermost offset segments).length = segments.countP isPlaceholder := by
  induction segments using sequenceInduction with
  | nil => simp [outermost]
  | literal text rest ih => simp [outermost, ih, isPlaceholder]
  | placeholder children rest _ ih =>
      have counted : isPlaceholder (.placeholder children) = true := rfl
      simp [outermost, ih, List.countP_cons_of_pos counted]

theorem outermost_isEmpty (segments : List Segment) (offset : Nat) :
    (outermost offset segments).isEmpty = !segments.any isPlaceholder := by
  rw [Bool.eq_iff_iff, List.isEmpty_iff_length_eq_zero, length_outermost, List.countP_eq_zero]
  simp

end Segment

open Segment

theorem entry_of_span {text before inside after : Text} {start stop : Nat}
    (split : text = before ++ '{' :: (inside ++ '}' :: after)) (starts : start = before.length)
    (stops : stop = start + inside.length + 2) :
    text.slice start stop = '{' :: (inside ++ ['}']) ∧
      text.slice (start + 1) (stop - 1) = inside := by
  subst split starts stops
  constructor
  · have whole : before ++ '{' :: (inside ++ '}' :: after) =
        before ++ ('{' :: (inside ++ ['}'])) ++ after := by simp
    rw [whole]
    exact Text.slice_append _ _ _ rfl (by simp; omega)
  · have whole : before ++ '{' :: (inside ++ '}' :: after) =
        (before ++ ['{']) ++ inside ++ '}' :: after := by simp
    rw [whole]
    exact Text.slice_append _ _ _ (by simp) (by simp; omega)

theorem length_placeholders (text : Text) :
    (placeholders text).length = (compile text).countP isPlaceholder := by
  obtain ⟨segments, formed, rfl⟩ := exists_wellFormed text
  rw [placeholders, List.length_map, outermostSpans_sourceAll formed, length_outermost,
    compile_sourceAll formed]

theorem getElem?_placeholders {text : Text} {before children after : List Segment}
    (compiled : compile text = before ++ .placeholder children :: after) :
    (placeholders text)[before.countP isPlaceholder]? = some
      { raw := (Segment.placeholder children).source
        expression := sourceAll children
        span := ⟨(sourceAll before).length,
          (sourceAll before).length + (Segment.placeholder children).source.length⟩
        nested := children.any isPlaceholder } := by
  have formed := wellFormed_compile text
  have written := sourceAll_compile text
  rw [compiled] at formed written
  have own : Tidy [.placeholder children] :=
    ((tidy_cons_iff _ _).mp ((tidy_append_iff _ _).mp formed.toTidy).2.1).1
  have split : text = sourceAll before ++ '{' :: (sourceAll children ++ '}' :: sourceAll after) := by
    rw [← written]
    simp [sourceAll_append]
  have spans : (outermostSpans text)[before.countP isPlaceholder]? =
      some ⟨(sourceAll before).length, (sourceAll before).length + (sourceAll children).length + 2⟩ := by
    rw [← written, outermostSpans_sourceAll formed, outermost_append, outermost,
      List.getElem?_append_right (by rw [length_outermost]), length_outermost]
    simp
  obtain ⟨raw, interior⟩ := entry_of_span split rfl rfl
  have inside : outermostSpans (sourceAll children) = outermost 0 children :=
    outermostSpans_sourceAll (wellFormed_children own)
  have length : (Segment.placeholder children).source.length = (sourceAll children).length + 2 := by
    simp [source]
  rw [placeholders, List.getElem?_map, spans, Option.map_some]
  dsimp only
  rw [raw, interior, inside, outermost_isEmpty, Bool.not_not, length, ← Nat.add_assoc, source]

end Stencil
