import Stencil.Accessor.Scripted
import Stencil.Libraries.Standard
import Stencil.Proofs.Render.Recursion
import Stencil.Proofs.Segment.Concatenation

/-! Rendering two texts side by side is rendering the first and then the second, from the world that the
first leaves. -/

namespace Stencil

open Segment Groups

theorem renderAllWith_append (expand : Text → Run (Text × List Diagnostic))
    (left right : List Segment) :
    renderAllWith expand (left ++ right) = (do
      let (text, first) ← renderAllWith expand left
      let (others, later) ← renderAllWith expand right
      return (text ++ others, first ++ later)) := by
  induction left with
  | nil => simp [renderAllWith]
  | cons segment rest ih => simp [renderAllWith, ih]

theorem renderAllWith_join (expand : Text → Run (Text × List Diagnostic))
    (left right : List Segment) :
    renderAllWith expand (join left right) = (do
      let (text, first) ← renderAllWith expand left
      let (others, later) ← renderAllWith expand right
      return (text ++ others, first ++ later)) := by
  rcases join_cases left right with ⟨init, text, other, rest, rfl, rfl⟩ | ⟨_, same⟩
  · rw [join_literals, renderAllWith_append, renderAllWith_append]
    simp [renderAllWith, renderWith]
  · rw [same, renderAllWith_append]

section

variable [Bodies]

theorem render_join (reentry : Reentry) (settings : Settings) (left right : List Segment)
    (binding : Value) :
    render reentry settings (join left right) binding = (do
      let first ← render reentry settings left binding
      let second ← render reentry settings right binding
      return ⟨first.text ++ second.text, first.diagnostics ++ second.diagnostics⟩) := by
  simp only [render, renderLoop_eq_renderAllWith, renderAllWith_join]
  simp

theorem render_literal (reentry : Reentry) (settings : Settings) (text : Text) (binding : Value) :
    render reentry settings [.literal text] binding = pure ⟨text, []⟩ := by
  simp [render, renderLoop]

end

theorem Groups.leavesNoneOpen_append_escaped (first : Text) {c : Char} (brace : c = '{' ∨ c = '}') :
    LeavesNoneOpen (first ++ [escape, c]) := by
  have split : first ++ [escape, c] = (first ++ [escape]) ++ c :: [] := by simp
  have escaped : isEscaped? (first ++ [escape, c]) (first ++ [escape]).length = some true := by
    rw [split, isEscaped?_append]
    simp
  intro offset inside opens
  refine Or.inr ⟨(first ++ [escape]).length, by simp, ?_, ?_, escaped⟩
  · have different : offset ≠ (first ++ [escape]).length := by
      rintro rfl
      rw [opens.2] at escaped
      cases escaped
    simp only [List.length_append, List.length_cons, List.length_nil] at inside different ⊢
    omega
  · rw [split]
    simpa using brace

theorem compile_append_escaped (first second : Text) {c : Char} (brace : c = '{' ∨ c = '}') :
    compile (first ++ escape :: c :: second) =
      join (join (compile first) [.literal [escape, c]]) (compile second) := by
  have alone : compile [escape, c] = [.literal [escape, c]] := by
    rcases brace with rfl | rfl <;> decide
  have front : compile (first ++ [escape, c]) = join (compile first) (compile [escape, c]) := by
    apply compile_append
    · simp [EscapesAcross, escape]
    · rw [alone]
      rcases brace with rfl | rfl <;> simp [marksAll, Text.marks, escape, Mark.Unmatched]
  have whole : first ++ escape :: c :: second = (first ++ [escape, c]) ++ second := by simp
  have apart : ¬EscapesAcross (first ++ [escape, c]) second := by
    simp [EscapesAcross, ne_escape_of_brace brace]
  rw [whole, compile_append_of_leavesNoneOpen (leavesNoneOpen_append_escaped first brace) apart,
    front, alone]

/-- If the first of two texts leaves no group open and no backslash at its end meets a brace, they compile to
their sequences joined, and render one after the other. An escaped brace between two texts keeps them apart
whatever they hold. -/
theorem compile_append_and_render_append [Bodies] (first second : Text) :
    (LeavesNoneOpen first → ¬EscapesAcross first second →
      compile (first ++ second) = join (compile first) (compile second) ∧
      ∀ reentry settings binding,
        render reentry settings (compile (first ++ second)) binding = (do
          let left ← render reentry settings (compile first) binding
          let right ← render reentry settings (compile second) binding
          return ⟨left.text ++ right.text, left.diagnostics ++ right.diagnostics⟩)) ∧
      ∀ c, c = '{' ∨ c = '}' → ∀ reentry settings binding,
        render reentry settings (compile (first ++ escape :: c :: second)) binding = (do
          let left ← render reentry settings (compile first) binding
          let right ← render reentry settings (compile second) binding
          return ⟨left.text ++ escape :: c :: right.text,
            left.diagnostics ++ right.diagnostics⟩) := by
  constructor
  · intro closed apart
    have joined := compile_append_of_leavesNoneOpen closed apart
    refine ⟨joined, ?_⟩
    intro reentry settings binding
    rw [joined, render_join]
  · intro c brace reentry settings binding
    rw [compile_append_escaped first second brace, render_join, render_join, render_literal]
    simp

theorem append_past_unclosed_braces :
    compile (['{', 'x', '}', '{', 'a', '{', escape, '}'] ++ ['}', '{', 'y', '}']) =
        [.placeholder [.literal ['x']], .literal ['{', 'a', '{', escape, '}', '}'],
          .placeholder [.literal ['y']]] ∧
      ∀ reentry,
        render reentry .default (compile (['{', 'a'] ++ escape :: '}' :: ['b', '}'])) .absent =
          pure ⟨['{', 'a', escape, '}', 'b', '}'], []⟩ := by
  constructor
  · have closed : LeavesNoneOpen ['{', 'x', '}', '{', 'a', '{', escape, '}'] := by decide
    have apart : ¬EscapesAcross ['{', 'x', '}', '{', 'a', '{', escape, '}'] ['}', '{', 'y', '}'] := by
      decide
    rw [((compile_append_and_render_append _ _).1 closed apart).1]
    decide
  · intro reentry
    have left : compile ['{', 'a'] = [.literal ['{', 'a']] := by decide
    have right : compile ['b', '}'] = [.literal ['b', '}']] := by decide
    rw [(compile_append_and_render_append _ _).2 '}' (Or.inr rfl), left, right, render_literal,
      render_literal]
    simp

end Stencil
