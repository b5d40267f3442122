import Stencil.Proofs.Render.Still
import Stencil.Proofs.Segment.Inspection
import Stencil.Template

/-! What inspecting a text lists is what rendering it replaces: each placeholder stands where the entry says,
and everything else in the text is kept. -/

namespace Stencil

open Segment

def Text.splice (text : Text) : (position : Nat) → List (Span × Text) → Text
  | position, [] => text.drop position
  | position, (span, new) :: rest => text.slice position span.start ++ new ++ splice text span.stop rest

def renderedText (reentry : Reentry) (settings : Settings) (binding : Value) (world : World)
    (template : Text) : Except Failure Text :=
  ((render reentry settings (compile template) binding).outcome world).1.map Rendering.text

theorem renderedText_eq_textOf (reentry : Reentry) (settings : Settings) (binding : Value)
    (world : World) (template : Text) :
    renderedText reentry settings binding world template =
      textOf (renderExpression reentry settings binding) world (compile template) := by
  rw [renderedText, textOf, render, renderLoop_eq_renderAllWith, Run.outcome_bind]
  generalize (renderAllWith _ (compile template)).outcome world = rendered
  obtain ⟨result, after⟩ := rendered
  cases result <;> rfl

section

variable {expand : Text → Run (Text × List Diagnostic)} {world : World}

theorem textOf_append_eq_ok (steady : Steady expand world) {left right : List Segment} {whole : Text}
    (rendered : textOf expand world (left ++ right) = .ok whole) :
    ∃ text others, textOf expand world left = .ok text ∧ textOf expand world right = .ok others ∧
      whole = text ++ others := by
  rw [textOf_append steady] at rendered
  cases first : textOf expand world left with
  | error failure =>
      rw [first] at rendered
      cases rendered
  | ok text =>
      cases second : textOf expand world right with
      | error failure =>
          rw [first, second] at rendered
          cases rendered
      | ok others =>
          rw [first, second] at rendered
          cases rendered
          exact ⟨text, others, rfl, rfl, rfl⟩

theorem compile_source_placeholder {children : List Segment} (tidy : Tidy [.placeholder children]) :
    compile (Segment.placeholder children).source = [.placeholder children] := by
  have formed : WellFormed [.placeholder children] := by
    rw [wellFormed_iff]
    exact ⟨tidy, by simp [marksAll, Mark.Unmatched]⟩
  have alone : sourceAll [.placeholder children] = (Segment.placeholder children).source := by
    simp [sourceAll]
  rw [← alone, compile_sourceAll formed]

/-- Rendering the source of a tidy sequence splices the texts of its placeholders into it, each rendered
from its own source. -/
theorem splice_sourceAll (steady : Steady expand world) {text : Text} (segments : List Segment) :
    Tidy segments → ∀ before lead whole, text = before ++ lead ++ sourceAll segments →
      textOf expand world segments = .ok whole →
      ∃ inserted,
        (outermost (before.length + lead.length) segments).mapM (fun span =>
          textOf expand world (compile (text.slice span.start span.stop))) = .ok inserted ∧
        lead ++ whole =
          text.splice before.length
            ((outermost (before.length + lead.length) segments).zip inserted) := by
  induction segments using sequenceInduction with
  | nil =>
      intro _ before lead whole split rendered
      have empty : whole = [] := by simpa [textOf, renderAllWith, Except.map] using rendered.symm
      exact ⟨[], rfl, by simp [outermost, Text.splice, split, empty]⟩
  | literal kept rest ih =>
      intro tidy before lead whole split rendered
      obtain ⟨_, restTidy, _⟩ := (tidy_cons_iff _ _).mp tidy
      have apart : textOf expand world ([.literal kept] ++ rest) = .ok whole := rendered
      obtain ⟨shown, others, own, later, rfl⟩ := textOf_append_eq_ok steady apart
      rw [textOf_literal] at own
      cases own
      have behind := ih restTidy before (lead ++ kept) others (by simp [split]) later
      simpa [outermost, Nat.add_assoc] using behind
  | placeholder children rest _ ih =>
      intro tidy before lead whole split rendered
      obtain ⟨own, restTidy, _⟩ := (tidy_cons_iff _ _).mp tidy
      have apart : textOf expand world ([.placeholder children] ++ rest) = .ok whole := rendered
      obtain ⟨new, others, replaced, later, rfl⟩ := textOf_append_eq_ok steady apart
      let raw := (Segment.placeholder children).source
      let start := before.length + lead.length
      let stop := start + (sourceAll children).length + 2
      have split : text = before ++ lead ++ raw ++ sourceAll rest := by simp [split, raw, source]
      have length : raw.length = (sourceAll children).length + 2 := by simp [raw, source]
      have gap : text.slice before.length start = lead := by
        rw [split, List.append_assoc (before ++ lead)]
        exact Text.slice_append before lead _ rfl rfl
      have here : text.slice start stop = raw := by
        rw [split]
        exact Text.slice_append (before ++ lead) raw _ (by simp [start])
          (by simp only [List.length_append, length, stop, start]; omega)
      have behind : (before ++ lead ++ raw).length = stop := by
        simp only [List.length_append, length, stop, start]
        omega
      obtain ⟨inserted, texts, spliced⟩ := ih restTidy (before ++ lead ++ raw) [] others
        (by simp [split]) later
      rw [List.length_nil, Nat.add_zero, behind] at texts spliced
      refine ⟨new :: inserted, ?_, ?_⟩
      · rw [outermost, List.mapM_cons]
        change (do
          let first ← textOf expand world (compile (text.slice start stop))
          let rest ← (outermost stop rest).mapM _
          return first :: rest) = _
        rw [here, compile_source_placeholder own, replaced, texts]
        rfl
      · rw [outermost, List.zip_cons_cons, Text.splice]
        change _ = text.slice before.length start ++ new ++
          text.splice stop ((outermost stop rest).zip inserted)
        rw [gap, ← spliced]
        simp

end

theorem raw_eq_slice {text : Text} {entry : Placeholder} (member : entry ∈ placeholders text) :
    entry.raw = text.slice entry.span.start entry.span.stop := by
  obtain ⟨span, _, rfl⟩ := List.mem_map.mp member
  rfl

/-- What inspection lists is what is at the top of the compiled sequence, entry by entry, and what rendering
replaces: the rendered text is the text itself with the rendered raw text of each entry in its span. -/
theorem placeholders_correct (text : Text) :
    (placeholders text).length = (compile text).countP isPlaceholder ∧
    (∀ before children after, compile text = before ++ .placeholder children :: after →
      ∃ entry, (placeholders text)[before.countP isPlaceholder]? = some entry ∧
        entry.raw = (Segment.placeholder children).ownSource ∧
        entry.raw = text.slice entry.span.start entry.span.stop ∧
        entry.expression = write children ∧
        entry.span.start = (write before).length ∧
        entry.span.stop = entry.span.start + entry.raw.length ∧
        (entry.nested = true ↔ ∃ child ∈ children, child.isPlaceholder = true)) ∧
    ∀ reentry settings binding world whole,
      Steady (renderExpression reentry settings binding) world →
      renderedText reentry settings binding world text = .ok whole →
      ∃ inserted,
        (placeholders text).mapM (fun entry =>
          renderedText reentry settings binding world entry.raw) = .ok inserted ∧
        whole = text.splice 0 (((placeholders text).map Placeholder.span).zip inserted) := by
  refine ⟨length_placeholders text, ?_, ?_⟩
  · intro before children after compiled
    have found := getElem?_placeholders compiled
    have cut := raw_eq_slice (List.mem_of_getElem? found)
    refine ⟨_, found, ?_, cut, ?_, ?_, rfl, ?_⟩
    · exact (ownSource_eq_source _).symm
    · exact (write_eq_sourceAll children).symm
    · rw [write_eq_sourceAll]
    · simp
  · intro reentry settings binding world whole steady rendered
    rw [renderedText_eq_textOf] at rendered
    have split : text = [] ++ [] ++ sourceAll (compile text) := by simp [sourceAll_compile]
    obtain ⟨inserted, texts, spliced⟩ :=
      splice_sourceAll steady (compile text) (wellFormed_compile text).toTidy [] [] whole split rendered
    have spans : outermost 0 (compile text) = outermostSpans text := by
      rw [← outermostSpans_sourceAll (wellFormed_compile text), sourceAll_compile]
    have listed : (placeholders text).map Placeholder.span = outermostSpans text := by
      rw [placeholders, List.map_map]
      exact List.map_id _
    refine ⟨inserted, ?_, ?_⟩
    · simp only [renderedText_eq_textOf]
      rw [placeholders, List.mapM_map, ← spans]
      exact texts
    · rw [listed, ← spans]
      exact spliced

def namingRecord : World :=
  { World.empty with
    store :=
      #[.record ⟨['P'], 1, [(['x'], .integer 7)], none, .as ['p'], .is true, .is false, none⟩,
        .blueprint ⟨['P'], [⟨.method, ['y'], [], .gives (.text ['x']) []⟩]⟩] }

def nestedText : Text :=
  ['a', '{', 'x', '}', '{', '{', 'y', '}', '}', '}']

theorem splice_nestedText :
    ∃ inserted,
      (placeholders nestedText).mapM (fun entry =>
        renderedText (.ofDepth 1) .default (.object 0) namingRecord entry.raw) = .ok inserted ∧
      ['a', '7', '7', '}'] =
        nestedText.splice 0 (((placeholders nestedText).map Placeholder.span).zip inserted) := by
  have steady : Steady (renderExpression (.ofDepth 1) .default (.object 0)) namingRecord :=
    steady_of_isStill rfl (.ofDepth 1) rfl
  have compiled : compile nestedText =
      [.literal ['a'], .placeholder [.literal ['x']], .placeholder [.placeholder [.literal ['y']]],
        .literal ['}']] := by decide
  have rendered : renderedText (.ofDepth 1) .default (.object 0) namingRecord nestedText =
      .ok ['a', '7', '7', '}'] := by
    rw [renderedText_eq_textOf, compiled]
    rfl
  exact (placeholders_correct nestedText).2.2 (.ofDepth 1) .default (.object 0) namingRecord _ steady
    rendered

end Stencil
