import Stencil.Proofs.Segment.Spans
import Stencil.Segment.Compile

/-! Compiling the source of a well-formed sequence gives the sequence back. -/

namespace Stencil
namespace Assembly

def take (assembly : Assembly) : Segment → Assembly
  | .literal text => { assembly with pending := text.reverse ++ assembly.pending }
  | .placeholder children => assembly.flush.add (.placeholder children)

theorem closesAt_add (assembly : Assembly) (segment : Segment) (position : Nat) :
    (assembly.add segment).closesAt position = assembly.closesAt position := by
  obtain ⟨root, frames, pending⟩ := assembly
  cases frames <;> rfl

theorem closesAt_flush (assembly : Assembly) (position : Nat) :
    assembly.flush.closesAt position = assembly.closesAt position := by
  simp only [flush]
  split
  · rfl
  · exact closesAt_add assembly _ position

theorem closesAt_take (assembly : Assembly) (segment : Segment) (position : Nat) :
    (assembly.take segment).closesAt position = assembly.closesAt position := by
  cases segment with
  | literal text => rfl
  | placeholder children => rw [take, closesAt_add, closesAt_flush]

theorem closesAt_foldl_take (segments : List Segment) (position : Nat) :
    ∀ assembly : Assembly,
      (segments.foldl take assembly).closesAt position = assembly.closesAt position := by
  induction segments with
  | nil => simp
  | cons segment rest ih =>
      intro assembly
      rw [List.foldl_cons, ih, closesAt_take]

theorem flush_of_pending_nil {assembly : Assembly} (empty : assembly.pending = []) :
    assembly.flush = assembly := by
  simp [flush, empty]

theorem pending_add (assembly : Assembly) (segment : Segment) :
    (assembly.add segment).pending = assembly.pending := by
  obtain ⟨root, frames, pending⟩ := assembly
  cases frames <;> rfl

theorem pending_flush (assembly : Assembly) : assembly.flush.pending = [] := by
  simp only [flush]
  split
  · simpa using ‹assembly.pending.isEmpty = true›
  · rfl

theorem run_text (groups : Groups) (text rest : Text) :
    ∀ offset assembly,
      (∀ position, offset ≤ position → position < offset + text.length →
        groups[position]? = none ∧ assembly.closesAt position = false) →
      run groups (text ++ rest) offset assembly =
        run groups rest (offset + text.length) (assembly.take (.literal text)) := by
  induction text with
  | nil =>
      intro offset assembly _
      simp [take]
  | cons c tail ih =>
      intro offset assembly quiet
      obtain ⟨noGroup, noClose⟩ := quiet offset (Nat.le_refl _) (by simp)
      have waits : step groups offset c assembly =
          { assembly with pending := c :: assembly.pending } := by
        simp [step, noGroup, noClose]
      have rest := ih (offset + 1) { assembly with pending := c :: assembly.pending }
        fun position lower upper => quiet position (by omega) (by simp; omega)
      rw [List.cons_append, run, waits, rest]
      simp [take, Nat.add_assoc, Nat.add_comm 1]

theorem flush_foldl_take (segments : List Segment) :
    Segment.Tidy segments → ∀ assembly : Assembly,
      (assembly.pending = [] ∨ ∀ first ∈ segments.head?, first.isPlaceholder) →
      (segments.foldl take assembly).flush = segments.foldl add assembly.flush := by
  induction segments with
  | nil =>
      intro _ assembly _
      rfl
  | cons segment rest ih =>
      intro tidy assembly ready
      obtain ⟨own, restTidy, fits⟩ := (Segment.tidy_cons_iff _ _).mp tidy
      rw [List.foldl_cons, List.foldl_cons]
      cases segment with
      | literal text =>
          have nonempty : text ≠ [] := (Segment.tidy_literal_iff text).mp own
          have empty : assembly.pending = [] :=
            ready.resolve_right (by simp [Segment.isPlaceholder])
          have stored : (assembly.take (.literal text)).flush =
              assembly.flush.add (.literal text) := by
            rw [flush_of_pending_nil empty]
            obtain ⟨root, frames, pending⟩ := assembly
            cases empty
            cases frames <;> simp [take, flush, nonempty, add]
          rw [ih restTidy _ (Or.inr ?_), stored]
          exact fun next isNext => (fits next isNext).isPlaceholder_after_literal
      | placeholder children =>
          have empty : (assembly.take (.placeholder children)).pending = [] := by
            rw [take, pending_add, pending_flush]
          rw [ih restTidy _ (Or.inl empty), flush_of_pending_nil empty]
          rfl

theorem foldl_add_frame (segments : List Segment) (root : List Segment) (outer : List Frame)
    (pending : Text) (close : Nat) :
    ∀ children, segments.foldl add ⟨root, ⟨children, close⟩ :: outer, pending⟩ =
      ⟨root, ⟨segments.reverse ++ children, close⟩ :: outer, pending⟩ := by
  induction segments with
  | nil => simp
  | cons segment rest ih =>
      intro children
      rw [List.foldl_cons, add, ih]
      simp

theorem foldl_add_root (segments : List Segment) (pending : Text) :
    ∀ root, segments.foldl add ⟨root, [], pending⟩ = ⟨segments.reverse ++ root, [], pending⟩ := by
  induction segments with
  | nil => simp
  | cons segment rest ih =>
      intro root
      rw [List.foldl_cons, add, ih]
      simp

theorem leave_children {children : List Segment} (tidy : Segment.Tidy children)
    (assembly : Assembly) (close : Nat) :
    (children.foldl take (assembly.flush.enter close)).flush.leave =
      assembly.take (.placeholder children) := by
  have empty : (assembly.flush.enter close).pending = [] := pending_flush assembly
  rw [flush_foldl_take children tidy _ (Or.inl empty), flush_of_pending_nil empty, take]
  obtain ⟨root, frames, pending⟩ := assembly.flush
  rw [enter, foldl_add_frame]
  simp [leave]

/-- Reading the source of a tidy sequence takes its segments one after the other, if the groups are its
placeholders and no frame closes before its end. -/
theorem run_sourceAll (groups : Groups) (segments : List Segment) :
    Segment.Tidy segments → ∀ rest offset assembly,
      Segment.Describes groups offset segments →
      (∀ position, offset ≤ position → position < offset + (Segment.sourceAll segments).length →
        assembly.closesAt position = false) →
      run groups (Segment.sourceAll segments ++ rest) offset assembly =
        run groups rest (offset + (Segment.sourceAll segments).length)
          (segments.foldl take assembly) := by
  induction segments using Segment.sequenceInduction with
  | nil => simp
  | literal text tail ih =>
      intro tidy rest offset assembly describes noClose
      obtain ⟨_, tailTidy, _⟩ := (Segment.tidy_cons_iff _ _).mp tidy
      rw [Segment.sourceAll_literal_cons, List.length_append] at noClose
      have read := run_text groups text (Segment.sourceAll tail ++ rest) offset assembly
        fun position lower upper =>
          ⟨describes.none_in_literal lower upper, noClose position lower (by omega)⟩
      have tailRead := ih tailTidy rest (offset + text.length) (assembly.take (.literal text))
        describes.after_literal fun position lower upper =>
          noClose position (by omega) (by omega)
      rw [Segment.sourceAll_literal_cons, List.append_assoc, read, tailRead, List.foldl_cons,
        List.length_append, Nat.add_assoc]
  | placeholder children tail childrenIH tailIH =>
      intro tidy rest offset assembly describes noClose
      obtain ⟨own, tailTidy, _⟩ := (Segment.tidy_cons_iff _ _).mp tidy
      obtain ⟨childrenTidy, _, _⟩ := (Segment.tidy_placeholder_iff children).mp own
      rw [Segment.sourceAll_placeholder_cons, List.length_cons, List.length_append,
        List.length_cons] at noClose
      let inner := assembly.flush.enter (offset + (Segment.sourceAll children).length + 1)
      have enters : step groups offset '{' assembly = inner := by
        simp [step, noClose offset (Nat.le_refl _) (by omega), describes.opening, inner]
      have childrenRead := childrenIH childrenTidy ('}' :: (Segment.sourceAll tail ++ rest))
        (offset + 1) inner describes.inside (by
          intro position lower upper
          simp only [inner, enter, closesAt, beq_eq_false_iff_ne]
          omega)
      have leaves : step groups (offset + 1 + (Segment.sourceAll children).length) '}'
          (children.foldl take inner) = assembly.take (.placeholder children) := by
        have closes : (children.foldl take inner).closesAt
            (offset + 1 + (Segment.sourceAll children).length) = true := by
          rw [closesAt_foldl_take]
          simp only [inner, enter, closesAt, beq_iff_eq]
          omega
        rw [step, if_pos closes]
        exact leave_children childrenTidy assembly _
      have tailRead := tailIH tailTidy rest (offset + (Segment.sourceAll children).length + 2)
        (assembly.take (.placeholder children)) describes.after_placeholder (by
          intro position lower upper
          rw [closesAt_take]
          exact noClose position (by omega) (by omega))
      have next : offset + 1 + (Segment.sourceAll children).length + 1 =
          offset + (Segment.sourceAll children).length + 2 := by omega
      rw [Segment.sourceAll_placeholder_cons, List.cons_append, List.append_assoc,
        List.cons_append, run, enters, childrenRead, run, leaves, next, tailRead, List.foldl_cons]
      congr 1
      simp only [List.length_cons, List.length_append]
      omega

theorem finish_of_flush {assembly : Assembly} {segments : List Segment}
    (stored : assembly.flush = ⟨segments.reverse, [], []⟩) : assembly.finish = segments := by
  obtain ⟨root, frames, pending⟩ := assembly
  by_cases empty : pending = []
  · subst empty
    rw [flush_of_pending_nil rfl] at stored
    cases stored
    simp [finish]
  · cases frames with
    | nil =>
        simp only [flush, List.isEmpty_iff, empty, ↓reduceIte, add, mk.injEq, and_true] at stored
        simp [finish, empty, stored]
    | cons frame outer => simp [flush, empty, add] at stored

end Assembly

namespace Segment

theorem compile_sourceAll {segments : List Segment} (formed : WellFormed segments) :
    compile (sourceAll segments) = segments := by
  have read := Assembly.run_sourceAll (Groups.ofText (sourceAll segments)) segments formed.toTidy
    [] 0 .start (describes_ofText formed) (fun _ _ _ => rfl)
  have empty : Assembly.start.pending = [] := rfl
  have stored := Assembly.flush_foldl_take segments formed.toTidy .start (Or.inl empty)
  rw [Assembly.flush_of_pending_nil empty, Assembly.start, Assembly.foldl_add_root,
    List.append_nil] at stored
  rw [List.append_nil, Assembly.run] at read
  rw [compile, read]
  exact Assembly.finish_of_flush stored

end Segment
end Stencil
