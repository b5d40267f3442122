import Stencil.Proofs.Segment.WellFormed

/-! The groups in the source of a well-formed sequence are the placeholders of the sequence. -/

namespace Stencil

namespace Groups

section

variable (rest : Text) (offset : Nat) (openings : List Nat) (groups : Groups)

theorem scan_plain {c : Char} (plain : ¬(c = '{' ∨ c = '}')) (escaped : Bool) :
    scan (c :: rest) offset escaped openings groups =
      scan rest (offset + 1) (c = escape) openings groups := by
  simp [scan, not_or.mp plain]

theorem scan_escaped {c : Char} (brace : c = '{' ∨ c = '}') :
    scan (c :: rest) offset true openings groups = scan rest (offset + 1) false [] groups := by
  rcases brace with rfl | rfl <;> simp [scan]

theorem scan_opening :
    scan ('{' :: rest) offset false openings groups =
      scan rest (offset + 1) false (offset :: openings) groups := by
  simp [scan]

theorem scan_stray :
    scan ('}' :: rest) offset false [] groups = scan rest (offset + 1) false [] groups := by
  simp [scan]

theorem scan_closing (start : Nat) :
    scan ('}' :: rest) offset false (start :: openings) groups =
      scan rest (offset + 1) false openings (groups.insert start (offset + 1)) := by
  simp [scan]

end

def record (groups : Groups) (spans : List Span) : Groups :=
  spans.foldl (fun groups span => groups.insert span.start span.stop) groups

theorem getElem?_record_of_absent (spans : List Span) (position : Nat)
    (absent : ∀ span ∈ spans, span.start ≠ position) (groups : Groups) :
    (groups.record spans)[position]? = groups[position]? := by
  induction spans generalizing groups with
  | nil => rfl
  | cons first rest ih =>
      have different : first.start ≠ position := absent first List.mem_cons_self
      have tail := ih (fun span member => absent span (List.mem_cons_of_mem first member))
        (groups.insert first.start first.stop)
      rw [record, List.foldl_cons, ← record, tail, Std.TreeMap.getElem?_insert]
      simp [different]

theorem getElem?_record_of_mem {spans : List Span} {span : Span}
    (distinct : spans.Pairwise fun left right => left.start ≠ right.start)
    (member : span ∈ spans) (groups : Groups) :
    (groups.record spans)[span.start]? = some span.stop := by
  induction spans generalizing groups with
  | nil => simp at member
  | cons first rest ih =>
      obtain ⟨apart, restDistinct⟩ := List.pairwise_cons.mp distinct
      rw [record, List.foldl_cons, ← record]
      rcases List.mem_cons.mp member with rfl | later
      · rw [getElem?_record_of_absent rest span.start fun other inRest =>
          Ne.symm (apart other inRest)]
        simp
      · exact ih restDistinct later _

theorem getElem?_record_iff {spans : List Span}
    (distinct : spans.Pairwise fun left right => left.start ≠ right.start) (position stop : Nat) :
    (record {} spans)[position]? = some stop ↔ ⟨position, stop⟩ ∈ spans := by
  constructor
  · intro found
    by_cases present : ∃ span ∈ spans, span.start = position
    · obtain ⟨⟨start, stop⟩, member, rfl⟩ := present
      rw [getElem?_record_of_mem distinct member] at found
      cases found
      exact member
    · rw [getElem?_record_of_absent spans position fun span member same =>
        present ⟨span, member, same⟩] at found
      simp at found
  · intro member
    exact getElem?_record_of_mem distinct member {}

theorem scan_text (text : Text) :
    ∀ rest offset escaped openings groups later,
      Mark.Unmatched (!openings.isEmpty) (text.marks escaped ++ later) →
      ∃ remaining,
        scan (text ++ rest) offset escaped openings groups =
          scan rest (offset + text.length) (text.escapesNext escaped) remaining groups ∧
        Mark.Unmatched (!remaining.isEmpty) later ∧
        (text.marks escaped = [] → remaining = openings) := by
  induction text with
  | nil =>
      intro rest offset escaped openings groups later unmatched
      exact ⟨openings, by simp, by simpa [Text.marks] using unmatched, by simp⟩
  | cons c tail ih =>
      intro rest offset escaped openings groups later unmatched
      rw [List.cons_append, Text.escapesNext_cons, List.length_cons,
        show offset + (tail.length + 1) = offset + 1 + tail.length by omega]
      by_cases brace : c = '{' ∨ c = '}'
      · have next : decide (c = escape) = false := decide_eq_false (ne_escape_of_brace brace)
        simp only [Text.marks, brace, ↓reduceIte, List.cons_append] at unmatched ⊢
        rw [next]
        cases escaped with
        | true =>
            obtain ⟨remaining, scanned, unmatched, _⟩ :=
              ih rest (offset + 1) false [] groups later unmatched
            exact ⟨remaining, by rw [scan_escaped _ _ _ _ brace, scanned], unmatched, by simp⟩
        | false =>
            rcases brace with rfl | rfl
            · obtain ⟨remaining, scanned, unmatched, _⟩ :=
                ih rest (offset + 1) false (offset :: openings) groups later unmatched
              exact ⟨remaining, by rw [scan_opening, scanned], unmatched, by simp⟩
            · obtain ⟨closed, unmatched⟩ := unmatched
              have none : openings = [] := by simpa using closed
              subst none
              obtain ⟨remaining, scanned, unmatched, _⟩ :=
                ih rest (offset + 1) false [] groups later unmatched
              exact ⟨remaining, by rw [scan_stray, scanned], unmatched, by simp⟩
      · simp only [Text.marks, brace, ↓reduceIte] at unmatched ⊢
        rw [scan_plain _ _ _ _ brace]
        exact ih rest (offset + 1) _ openings groups later unmatched

end Groups

namespace Segment

mutual

def spans (offset : Nat) : Segment → List Span
  | .literal _ => []
  | .placeholder children =>
    spansAll (offset + 1) children ++ [⟨offset, offset + (sourceAll children).length + 2⟩]

def spansAll (offset : Nat) : List Segment → List Span
  | [] => []
  | segment :: rest => segment.spans offset ++ spansAll (offset + segment.source.length) rest

end

def outermost (offset : Nat) : List Segment → List Span
  | [] => []
  | .literal text :: rest => outermost (offset + text.length) rest
  | .placeholder children :: rest =>
    let stop := offset + (sourceAll children).length + 2
    ⟨offset, stop⟩ :: outermost stop rest

@[simp]
theorem spansAll_literal_cons (offset : Nat) (text : Text) (rest : List Segment) :
    spansAll offset (.literal text :: rest) = spansAll (offset + text.length) rest := by
  simp [spansAll, spans, source]

@[simp]
theorem spansAll_placeholder_cons (offset : Nat) (children rest : List Segment) :
    spansAll offset (.placeholder children :: rest) =
      spansAll (offset + 1) children ++
        ⟨offset, offset + (sourceAll children).length + 2⟩ ::
          spansAll (offset + (sourceAll children).length + 2) rest := by
  simp [spansAll, spans, source, Nat.add_assoc]

theorem bounds_of_mem_spansAll {segments : List Segment} {span : Span} :
    ∀ {offset}, span ∈ spansAll offset segments →
      offset ≤ span.start ∧ span.start + 2 ≤ span.stop ∧
        span.stop ≤ offset + (sourceAll segments).length := by
  induction segments using sequenceInduction with
  | nil =>
      intro offset member
      simp [spansAll] at member
  | literal text rest ih =>
      intro offset member
      rw [spansAll_literal_cons] at member
      have bounds := ih member
      simp only [sourceAll_literal_cons, List.length_append]
      omega
  | placeholder children rest childrenIH restIH =>
      intro offset member
      rw [spansAll_placeholder_cons, List.mem_append, List.mem_cons] at member
      simp only [sourceAll_placeholder_cons, List.length_cons, List.length_append]
      rcases member with inside | rfl | later
      · have bounds := childrenIH inside
        omega
      · dsimp only
        omega
      · have bounds := restIH later
        omega

theorem spansAll_distinct (segments : List Segment) :
    ∀ offset, (spansAll offset segments).Pairwise fun left right => left.start ≠ right.start := by
  induction segments using sequenceInduction with
  | nil => simp [spansAll]
  | literal text rest ih =>
      intro offset
      rw [spansAll_literal_cons]
      exact ih _
  | placeholder children rest childrenIH restIH =>
      intro offset
      rw [spansAll_placeholder_cons, List.pairwise_append, List.pairwise_cons]
      refine ⟨childrenIH _, ⟨?_, restIH _⟩, ?_⟩
      · intro later member
        have bounds := bounds_of_mem_spansAll member
        show offset ≠ later.start
        omega
      · intro inside insideMember other otherMember
        have insideBounds := bounds_of_mem_spansAll insideMember
        rcases List.mem_cons.mp otherMember with rfl | later
        · show inside.start ≠ offset
          omega
        · have bounds := bounds_of_mem_spansAll later
          omega

/-- Scanning the source of a tidy sequence enters the spans of its placeholders, and takes the braces
that stand open before it from inside them to be none of its own. -/
theorem scan_sourceAll (segments : List Segment) :
    Tidy segments → ∀ rest offset openings groups later,
      Mark.Unmatched (!openings.isEmpty) (marksAll segments ++ later) →
      ∃ remaining,
        Groups.scan (sourceAll segments ++ rest) offset false openings groups =
          Groups.scan rest (offset + (sourceAll segments).length)
            ((sourceAll segments).escapesNext false) remaining
            (groups.record (spansAll offset segments)) ∧
        Mark.Unmatched (!remaining.isEmpty) later ∧
        (marksAll segments = [] → remaining = openings) := by
  induction segments using sequenceInduction with
  | nil =>
      intro _ rest offset openings groups later unmatched
      exact ⟨openings, by simp [spansAll, Groups.record], unmatched, by simp⟩
  | literal text tail ih =>
      intro tidy rest offset openings groups later unmatched
      obtain ⟨_, tailTidy, fits⟩ := (tidy_cons_iff _ _).mp tidy
      rw [marksAll, List.append_assoc] at unmatched
      obtain ⟨between, scanned, unmatched, unchanged⟩ :=
        Groups.scan_text text (sourceAll tail ++ rest) offset false openings groups _ unmatched
      cases tail with
      | nil =>
          refine ⟨between, ?_, by simpa [marksAll] using unmatched, ?_⟩
          · simpa [spansAll, spans, Groups.record] using scanned
          · simpa [marksAll] using unchanged
      | cons next others =>
          have plain : text.escapesNext false = false :=
            (fits next rfl).2 (fits next rfl).isPlaceholder_after_literal
          rw [plain] at scanned
          obtain ⟨remaining, tailScanned, unmatched, tailUnchanged⟩ :=
            ih tailTidy rest (offset + text.length) between groups later unmatched
          refine ⟨remaining, ?_, unmatched, ?_⟩
          · rw [sourceAll_literal_cons, List.append_assoc, scanned, tailScanned]
            simp [plain, Nat.add_assoc]
          · intro none
            rw [marksAll, List.append_eq_nil_iff] at none
            rw [tailUnchanged none.2, unchanged none.1]
  | placeholder children tail childrenIH tailIH =>
      intro tidy rest offset openings groups later unmatched
      obtain ⟨own, tailTidy, _⟩ := (tidy_cons_iff _ _).mp tidy
      obtain ⟨childrenTidy, braceless, plain⟩ := (tidy_placeholder_iff children).mp own
      have none : marksAll children = [] := (marksAll_eq_nil_iff children).mpr braceless
      -- the children have no marks, so the closing brace meets the opening one, whatever is open outside
      obtain ⟨_, scanned, _, unchanged⟩ :=
        childrenIH childrenTidy ('}' :: (sourceAll tail ++ rest)) (offset + 1)
          (offset :: openings) groups [] (by rw [none]; trivial)
      rw [unchanged none, (endsPlain_iff childrenTidy).mp plain,
        Groups.scan_closing] at scanned
      obtain ⟨remaining, tailScanned, unmatched, tailUnchanged⟩ :=
        tailIH tailTidy rest (offset + (sourceAll children).length + 2) openings
          ((groups.record (spansAll (offset + 1) children)).insert offset
            (offset + (sourceAll children).length + 2)) later unmatched
      refine ⟨remaining, ?_, unmatched, tailUnchanged⟩
      have stop : offset + 1 + (sourceAll children).length + 1 =
          offset + (sourceAll children).length + 2 := by omega
      rw [stop] at scanned
      have length : offset + (sourceAll children).length + 2 + (sourceAll tail).length =
          offset + (sourceAll (.placeholder children :: tail)).length := by
        simp only [sourceAll_placeholder_cons, List.length_cons, List.length_append]
        omega
      have flag : (sourceAll (.placeholder children :: tail)).escapesNext false =
          (sourceAll tail).escapesNext false := by
        simp [Groups.escape]
      rw [flag, ← length, sourceAll_placeholder_cons, List.cons_append, List.append_assoc,
        List.cons_append, Groups.scan_opening, scanned, tailScanned]
      simp [Groups.record]

/-- Over the source of a sequence that begins at an offset, the groups are the placeholders of the
sequence. -/
def Describes (groups : Groups) (offset : Nat) (segments : List Segment) : Prop :=
  ∀ position stop, offset ≤ position → position < offset + (sourceAll segments).length →
    (groups[position]? = some stop ↔ ⟨position, stop⟩ ∈ spansAll offset segments)

namespace Describes

variable {groups : Groups} {offset : Nat}

theorem none_in_literal {text : Text} {rest : List Segment}
    (describes : Describes groups offset (.literal text :: rest)) {position : Nat}
    (lower : offset ≤ position) (upper : position < offset + text.length) :
    groups[position]? = none := by
  rw [Option.eq_none_iff_forall_ne_some]
  intro stop found
  have member := (describes position stop lower (by simp; omega)).mp found
  rw [spansAll_literal_cons] at member
  have bounds := bounds_of_mem_spansAll member
  dsimp only at bounds
  omega

theorem after_literal {text : Text} {rest : List Segment}
    (describes : Describes groups offset (.literal text :: rest)) :
    Describes groups (offset + text.length) rest := by
  intro position stop lower upper
  rw [describes position stop (by omega) (by simp; omega), spansAll_literal_cons]

theorem opening {children rest : List Segment}
    (describes : Describes groups offset (.placeholder children :: rest)) :
    groups[offset]? = some (offset + (sourceAll children).length + 2) := by
  rw [describes offset _ (Nat.le_refl _) (by simp)]
  simp

theorem inside {children rest : List Segment}
    (describes : Describes groups offset (.placeholder children :: rest)) :
    Describes groups (offset + 1) children := by
  intro position stop lower upper
  rw [describes position stop (by omega) (by simp; omega), spansAll_placeholder_cons,
    List.mem_append, List.mem_cons]
  constructor
  · rintro (member | same | member)
    · exact member
    · simp only [Span.mk.injEq] at same
      omega
    · have bounds := bounds_of_mem_spansAll member
      dsimp only at bounds
      omega
  · exact Or.inl

theorem after_placeholder {children rest : List Segment}
    (describes : Describes groups offset (.placeholder children :: rest)) :
    Describes groups (offset + (sourceAll children).length + 2) rest := by
  intro position stop lower upper
  rw [describes position stop (by omega) (by simp; omega), spansAll_placeholder_cons,
    List.mem_append, List.mem_cons]
  constructor
  · rintro (member | same | member)
    · have bounds := bounds_of_mem_spansAll member
      dsimp only at bounds
      omega
    · simp only [Span.mk.injEq] at same
      omega
    · exact member
  · exact fun member => Or.inr (Or.inr member)

end Describes

theorem ofText_sourceAll {segments : List Segment} (formed : WellFormed segments) :
    Groups.ofText (sourceAll segments) = Groups.record {} (spansAll 0 segments) := by
  obtain ⟨tidy, unmatched⟩ := (wellFormed_iff segments).mp formed
  obtain ⟨remaining, scanned, _⟩ :=
    scan_sourceAll segments tidy [] 0 [] {} [] (by simpa using unmatched)
  rw [List.append_nil] at scanned
  rw [Groups.ofText, scanned, Groups.scan]

theorem getElem?_ofText_iff {segments : List Segment} (formed : WellFormed segments)
    (position stop : Nat) :
    (Groups.ofText (sourceAll segments))[position]? = some stop ↔
      ⟨position, stop⟩ ∈ spansAll 0 segments := by
  rw [ofText_sourceAll formed]
  exact Groups.getElem?_record_iff (spansAll_distinct segments 0) position stop

theorem describes_ofText {segments : List Segment} (formed : WellFormed segments) :
    Describes (Groups.ofText (sourceAll segments)) 0 segments :=
  fun position stop _ _ => getElem?_ofText_iff formed position stop

theorem outermost_subset_spansAll (segments : List Segment) :
    ∀ offset, outermost offset segments ⊆ spansAll offset segments := by
  induction segments using sequenceInduction with
  | nil => simp [outermost]
  | literal text rest ih =>
      intro offset
      rw [outermost, spansAll_literal_cons]
      exact ih _
  | placeholder children rest _ ih =>
      intro offset span member
      rw [spansAll_placeholder_cons]
      rcases List.mem_cons.mp member with rfl | later
      · exact List.mem_append_right _ List.mem_cons_self
      · exact List.mem_append_right _ (List.mem_cons_of_mem _ (ih _ later))

theorem outermostFrom_append (groups : Groups) (text later : Text) (resume : Nat) :
    ∀ offset, (∀ position, offset ≤ position → position < offset + text.length →
        position < resume ∨ groups[position]? = none) →
      groups.outermostFrom (text ++ later) offset resume =
        groups.outermostFrom later (offset + text.length) resume := by
  induction text with
  | nil => simp
  | cons c tail ih =>
      intro offset quiet
      have rest := ih (offset + 1) fun position lower upper =>
        quiet position (by omega) (by simp; omega)
      have skipped : groups.outermostFrom (c :: (tail ++ later)) offset resume =
          groups.outermostFrom (tail ++ later) (offset + 1) resume := by
        rw [Groups.outermostFrom]
        rcases quiet offset (Nat.le_refl _) (by simp) with inside | none
        · simp [inside]
        · simp [none]
      rw [List.cons_append, skipped, rest, List.length_cons, Nat.add_assoc, Nat.add_comm 1]

theorem outermostFrom_sourceAll (groups : Groups) (segments : List Segment) :
    ∀ offset resume, resume ≤ offset → Describes groups offset segments →
      groups.outermostFrom (sourceAll segments) offset resume = outermost offset segments := by
  induction segments using sequenceInduction with
  | nil => simp [Groups.outermostFrom, outermost]
  | literal text rest ih =>
      intro offset resume passed describes
      rw [sourceAll_literal_cons, outermost, outermostFrom_append, ih]
      · omega
      · exact describes.after_literal
      · exact fun position lower upper => Or.inr (describes.none_in_literal lower upper)
  | placeholder children rest _ ih =>
      intro offset resume passed describes
      let stop := offset + (sourceAll children).length + 2
      have inside : groups.outermostFrom (sourceAll children ++ '}' :: sourceAll rest)
          (offset + 1) stop = groups.outermostFrom (sourceAll rest) stop stop := by
        have read := outermostFrom_append groups (sourceAll children ++ ['}']) (sourceAll rest)
          stop (offset + 1) (by
            intro position _ upper
            rw [List.length_append, List.length_singleton] at upper
            exact Or.inl (by omega))
        rw [List.append_assoc, List.singleton_append, List.length_append,
          List.length_singleton] at read
        rw [read]
        congr 1
        omega
      rw [sourceAll_placeholder_cons, outermost, Groups.outermostFrom, if_neg (by omega),
        describes.opening]
      dsimp only
      rw [inside, ih stop stop (Nat.le_refl _) describes.after_placeholder]

theorem outermostSpans_sourceAll {segments : List Segment} (formed : WellFormed segments) :
    outermostSpans (sourceAll segments) = outermost 0 segments :=
  outermostFrom_sourceAll _ segments 0 0 (Nat.le_refl _) (describes_ofText formed)

end Segment
end Stencil
