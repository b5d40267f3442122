import Stencil.Segment

/-! The walk on an explicit stack of open placeholders writes the text that the recursion on the tree
gives. -/

namespace Stencil
namespace Segment

@[elab_as_elim]
theorem sequenceInduction {motive : List Segment → Prop}
    (nil : motive [])
    (literal : ∀ text rest, motive rest → motive (.literal text :: rest))
    (placeholder : ∀ children rest, motive children → motive rest →
      motive (.placeholder children :: rest)) :
    ∀ segments, motive segments
  | [] => nil
  | .literal text :: rest =>
    literal text rest (sequenceInduction nil literal placeholder rest)
  | .placeholder children :: rest =>
    placeholder children rest (sequenceInduction nil literal placeholder children)
      (sequenceInduction nil literal placeholder rest)

@[simp]
theorem sourceAll_nil : sourceAll [] = [] := by
  simp [sourceAll]

@[simp]
theorem sourceAll_literal_cons (text : Text) (rest : List Segment) :
    sourceAll (.literal text :: rest) = text ++ sourceAll rest := by
  simp [sourceAll, source]

@[simp]
theorem sourceAll_placeholder_cons (children rest : List Segment) :
    sourceAll (.placeholder children :: rest) =
      '{' :: (sourceAll children ++ '}' :: sourceAll rest) := by
  simp [sourceAll, source]

/-- Walking the first segments of the innermost sequence writes their source and changes nothing
else on the stack. -/
theorem writeOnto_append (segments : List Segment) :
    ∀ written rest outer, writeOnto written ((segments ++ rest) :: outer) =
      writeOnto ((sourceAll segments).reverse ++ written) (rest :: outer) := by
  induction segments using sequenceInduction with
  | nil => simp
  | literal text tail ih =>
      intro written rest outer
      rw [List.cons_append, writeOnto, ih]
      simp
  | placeholder children tail childrenIH tailIH =>
      intro written rest outer
      have inner := childrenIH ('{' :: written) [] ((tail ++ rest) :: outer)
      rw [List.append_nil] at inner
      rw [List.cons_append, writeOnto, inner, writeOnto, tailIH]
      simp

theorem write_eq_sourceAll (segments : List Segment) : write segments = sourceAll segments := by
  have walked := writeOnto_append segments [] [] []
  rw [List.append_nil, writeOnto] at walked
  simp [write, walked]

theorem ownSource_eq_source (segment : Segment) : segment.ownSource = segment.source := by
  cases segment with
  | literal text => simp [ownSource, source]
  | placeholder children => simp [ownSource, source, write_eq_sourceAll]

theorem write_eq_flatMap_ownSource (segments : List Segment) :
    write segments = segments.flatMap ownSource := by
  rw [write_eq_sourceAll]
  induction segments with
  | nil => rfl
  | cons segment rest ih => rw [sourceAll, List.flatMap_cons, ownSource_eq_source, ih]

end Segment
end Stencil
