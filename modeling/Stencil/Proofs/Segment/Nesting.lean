import Stencil.Proofs.Segment.Counting

/-! The groups of a text lie beside each other or inside each other. The frames that compiling keeps at
an offset are the groups around it, so every one of them is closed again. -/

namespace Stencil

namespace Span

def Apart (one other : Span) : Prop :=
  one.stop ≤ other.start ∨ other.stop ≤ one.start

def Inside (inner outer : Span) : Prop :=
  outer.start < inner.start ∧ inner.stop < outer.stop

def ClosesBefore (first later : Span) : Prop :=
  first.stop < later.stop ∧ (first.stop ≤ later.start ∨ later.start < first.start)

theorem ClosesBefore.apart_or_inside {first later : Span} (order : first.ClosesBefore later) :
    first.Apart later ∨ first.Inside later :=
  order.2.imp Or.inl fun behind => ⟨behind, order.1⟩

def Ordered (one other : Span) : Prop :=
  one.ClosesBefore other ∨ other.ClosesBefore one

instance : Std.Symm Ordered :=
  ⟨fun _ _ => Or.symm⟩

end Span

namespace Segment

theorem spansAll_nested (segments : List Segment) :
    ∀ offset, (spansAll offset segments).Pairwise Span.ClosesBefore := by
  induction segments using sequenceInduction with
  | nil => simp [spansAll]
  | literal text rest ih =>
      intro offset
      rw [spansAll_literal_cons]
      exact ih _
  | placeholder children rest childrenIH restIH =>
      intro offset
      rw [spansAll_placeholder_cons, List.pairwise_append, List.pairwise_cons]
      refine ⟨childrenIH _, ⟨?_, restIH _⟩, ?_⟩
      · intro later member
        have bounds := bounds_of_mem_spansAll member
        simp only [Span.ClosesBefore]
        omega
      · intro inside insideMember other otherMember
        have insideBounds := bounds_of_mem_spansAll insideMember
        simp only [Span.ClosesBefore]
        rcases List.mem_cons.mp otherMember with rfl | later
        · dsimp only
          omega
        · have bounds := bounds_of_mem_spansAll later
          omega

theorem spansAll_ordered {segments : List Segment} {offset : Nat} {one other : Span}
    (first : one ∈ spansAll offset segments) (second : other ∈ spansAll offset segments)
    (different : one ≠ other) : one.Ordered other := by
  have ordered : (spansAll offset segments).Pairwise Span.Ordered :=
    (spansAll_nested segments offset).imp Or.inl
  exact ordered.forall first second different

/-- Where the placeholder of a span stands in the source of a sequence. -/
structure Placed (offset : Nat) (segments : List Segment) (span : Span) (lead : Text)
    (children : List Segment) (rest : Text) : Prop where
  source : sourceAll segments = lead ++ '{' :: (sourceAll children ++ '}' :: rest)
  start : span.start = offset + lead.length
  stop : span.stop = span.start + (sourceAll children).length + 2
  unescaped : lead.escapesNext false = false
  tidy : Tidy [.placeholder children]
  inside : spansAll (span.start + 1) children ⊆ spansAll offset segments

theorem exists_placed {segments : List Segment} {span : Span} : Tidy segments →
    ∀ {offset}, span ∈ spansAll offset segments →
      ∃ lead children rest, Placed offset segments span lead children rest := by
  induction segments using sequenceInduction with
  | nil =>
      intro _ offset member
      simp [spansAll] at member
  | literal text tail ih =>
      intro tidy offset member
      obtain ⟨_, tailTidy, fits⟩ := (tidy_cons_iff _ _).mp tidy
      rw [spansAll_literal_cons] at member
      obtain ⟨lead, children, rest, placed⟩ := ih tailTidy member
      have plain : text.escapesNext false = false := by
        cases tail with
        | nil => simp [spansAll] at member
        | cons next others =>
            exact (fits next rfl).2 (fits next rfl).isPlaceholder_after_literal
      refine ⟨text ++ lead, children, rest, ?_, ?_, placed.stop, ?_, placed.tidy, ?_⟩
      · rw [sourceAll_literal_cons, placed.source, List.append_assoc]
      · rw [placed.start, List.length_append, Nat.add_assoc]
      · rw [Text.escapesNext_append, plain, placed.unescaped]
      · rw [spansAll_literal_cons]
        exact placed.inside
  | placeholder children tail childrenIH tailIH =>
      intro tidy offset member
      obtain ⟨own, tailTidy, _⟩ := (tidy_cons_iff _ _).mp tidy
      obtain ⟨childrenTidy, _, _⟩ := (tidy_placeholder_iff children).mp own
      rw [spansAll_placeholder_cons, List.mem_append, List.mem_cons] at member
      rcases member with inside | rfl | later
      · obtain ⟨lead, others, rest, placed⟩ := childrenIH childrenTidy inside
        refine ⟨'{' :: lead, others, rest ++ '}' :: sourceAll tail, ?_, ?_, placed.stop, ?_,
          placed.tidy, ?_⟩
        · simp [placed.source]
        · rw [placed.start, List.length_cons]
          omega
        · rw [Text.escapesNext_cons]
          exact placed.unescaped
        · rw [spansAll_placeholder_cons]
          exact List.subset_append_of_subset_left _ placed.inside
      · refine ⟨[], children, sourceAll tail, ?_, rfl, rfl, rfl, own, ?_⟩
        · simp
        · rw [spansAll_placeholder_cons]
          exact List.subset_append_left _ _
      · obtain ⟨lead, others, rest, placed⟩ := tailIH tailTidy later
        refine ⟨'{' :: (sourceAll children ++ '}' :: lead), others, rest, ?_, ?_, placed.stop, ?_,
          placed.tidy, ?_⟩
        · simp [placed.source]
        · rw [placed.start]
          simp only [List.length_cons, List.length_append]
          omega
        · simpa [Groups.escape] using placed.unescaped
        · rw [spansAll_placeholder_cons]
          intro other member
          exact List.mem_append_right _ (List.mem_cons_of_mem _ (placed.inside member))

theorem exists_span_of_brace {segments : List Segment} : Tidy segments → Braceless segments →
    ∀ offset position,
      ((sourceAll segments)[position]? = some '{' →
        ∃ span ∈ spansAll offset segments, span.start = offset + position) ∧
      ((sourceAll segments)[position]? = some '}' →
        ∃ span ∈ spansAll offset segments, span.stop = offset + position + 1) := by
  induction segments using sequenceInduction with
  | nil => simp
  | literal text rest ih =>
      intro tidy braceless offset position
      obtain ⟨_, restTidy, _⟩ := (tidy_cons_iff _ _).mp tidy
      obtain ⟨noOpening, noClosing⟩ := braceless text List.mem_cons_self
      rw [sourceAll_literal_cons, spansAll_literal_cons]
      by_cases inside : position < text.length
      · rw [List.getElem?_append_left inside]
        exact ⟨fun found => absurd (List.mem_of_getElem? found) noOpening,
          fun found => absurd (List.mem_of_getElem? found) noClosing⟩
      · rw [List.getElem?_append_right (Nat.le_of_not_lt inside)]
        have found := ih restTidy (fun other member => braceless other (List.mem_cons_of_mem _ member))
          (offset + text.length) (position - text.length)
        rwa [show offset + text.length + (position - text.length) = offset + position by omega]
          at found
  | placeholder children rest childrenIH restIH =>
      intro tidy braceless offset position
      obtain ⟨own, restTidy, _⟩ := (tidy_cons_iff _ _).mp tidy
      obtain ⟨childrenTidy, childrenBraceless, _⟩ := (tidy_placeholder_iff children).mp own
      have restBraceless : Braceless rest :=
        fun other member => braceless other (List.mem_cons_of_mem _ member)
      rw [sourceAll_placeholder_cons, spansAll_placeholder_cons]
      simp only [List.mem_append, List.mem_cons]
      obtain rfl | ⟨place, rfl⟩ : position = 0 ∨ ∃ place, position = place + 1 :=
        (Nat.eq_zero_or_eq_succ_pred position).imp_right fun same => ⟨_, same⟩
      · exact ⟨fun _ => ⟨_, Or.inr (Or.inl rfl), rfl⟩, by simp⟩
      rw [List.getElem?_cons_succ]
      by_cases inside : place < (sourceAll children).length
      · rw [List.getElem?_append_left inside]
        have found := childrenIH childrenTidy childrenBraceless (offset + 1) place
        rw [show offset + 1 + place = offset + (place + 1) by omega] at found
        exact ⟨fun brace => (found.1 brace).imp fun span => And.imp_left Or.inl,
          fun brace => (found.2 brace).imp fun span => And.imp_left Or.inl⟩
      · rw [List.getElem?_append_right (Nat.le_of_not_lt inside)]
        obtain same | ⟨later, same⟩ : place = (sourceAll children).length ∨
            ∃ later, place = (sourceAll children).length + 1 + later := by
          rcases Nat.lt_or_ge (sourceAll children).length place with beyond | upTo
          · exact Or.inr ⟨place - (sourceAll children).length - 1, by omega⟩
          · exact Or.inl (by omega)
        · refine ⟨by simp [same], fun _ => ⟨_, Or.inr (Or.inl rfl), ?_⟩⟩
          dsimp only
          omega
        · subst same
          rw [show (sourceAll children).length + 1 + later - (sourceAll children).length = later + 1
            by omega, List.getElem?_cons_succ]
          have found := restIH restTidy restBraceless
            (offset + (sourceAll children).length + 2) later
          rw [show offset + (sourceAll children).length + 2 + later =
            offset + ((sourceAll children).length + 1 + later + 1) by omega] at found
          exact ⟨fun brace => (found.1 brace).imp fun span => And.imp_left (Or.inr ∘ Or.inr),
            fun brace => (found.2 brace).imp fun span => And.imp_left (Or.inr ∘ Or.inr)⟩

end Segment

namespace Groups

variable {text : Text} {groups : Groups} {offset : Nat}

def Has (groups : Groups) (span : Span) : Prop :=
  groups[span.start]? = some span.stop

def BraceAt (text : Text) (offset : Nat) : Prop :=
  text[offset]? = some '{' ∨ text[offset]? = some '}'

def ClosesAt (text : Text) (offset : Nat) : Prop :=
  text[offset]? = some '}' ∧ isEscaped? text offset = some false

/-- A group runs from an unescaped opening brace to an unescaped closing one. No two groups share an end,
and two that are not apart lie strictly inside one another. No brace from the start of a group to its end
is escaped, and each one between its own two belongs to a group inside it. -/
structure Laminar (text : Text) (groups : Groups) : Prop where
  braces : ∀ {span}, groups.Has span →
    OpensAt text span.start ∧ ∃ close, span.stop = close + 1 ∧ span.start < close ∧ ClosesAt text close
  stops : ∀ {one other}, groups.Has one → groups.Has other → one.stop = other.stop → one = other
  nested : ∀ {one other}, groups.Has one → groups.Has other → one ≠ other →
    one.Apart other ∨ one.Inside other ∨ other.Inside one
  unescaped : ∀ {span}, groups.Has span → ∀ position, span.start ≤ position → position < span.stop →
    BraceAt text position → isEscaped? text position = some false
  opening : ∀ {span}, groups.Has span → ∀ position, span.start < position → position + 1 < span.stop →
    text[position]? = some '{' → ∃ inner, groups.Has inner ∧ inner.Inside span ∧ inner.start = position
  closing : ∀ {span}, groups.Has span → ∀ position, span.start < position → position + 1 < span.stop →
    text[position]? = some '}' →
      ∃ inner, groups.Has inner ∧ inner.Inside span ∧ inner.stop = position + 1

theorem opensAt_append {lead : Text} (rest : Text) (unescaped : lead.escapesNext false = false) :
    OpensAt (lead ++ '{' :: rest) lead.length := by
  refine ⟨by simp, ?_⟩
  rw [isEscaped?_append, unescaped]

theorem closesAt_append {lead : Text} (rest : Text) (unescaped : lead.escapesNext false = false) :
    ClosesAt (lead ++ '}' :: rest) lead.length := by
  refine ⟨by simp, ?_⟩
  rw [isEscaped?_append, unescaped]

section

variable {segments : List Segment} {span : Span}

theorem has_ofText_iff (formed : Segment.WellFormed segments) :
    (ofText (Segment.sourceAll segments)).Has span ↔ span ∈ Segment.spansAll 0 segments :=
  Segment.getElem?_ofText_iff formed span.start span.stop

theorem braces_of_mem_spansAll (tidy : Segment.Tidy segments)
    (member : span ∈ Segment.spansAll 0 segments) :
    OpensAt (Segment.sourceAll segments) span.start ∧
      ∃ close, span.stop = close + 1 ∧ span.start < close ∧
        ClosesAt (Segment.sourceAll segments) close := by
  obtain ⟨lead, children, rest, placed⟩ := Segment.exists_placed tidy member
  obtain ⟨childrenTidy, _, plain⟩ := (Segment.tidy_placeholder_iff children).mp placed.tidy
  have start : span.start = lead.length := by
    have same := placed.start
    omega
  refine ⟨?_, span.start + (Segment.sourceAll children).length + 1, ?_, ?_, ?_⟩
  · rw [placed.source, start]
    exact opensAt_append _ placed.unescaped
  · exact placed.stop
  · omega
  · have unescaped : Text.escapesNext false (lead ++ '{' :: Segment.sourceAll children) = false := by
      simpa [escape] using (Segment.endsPlain_iff childrenTidy).mp plain
    have closes := closesAt_append rest unescaped
    rw [List.append_assoc, List.cons_append, ← placed.source] at closes
    rw [start]
    simpa [Nat.add_assoc] using closes

theorem exists_inner_of_brace (tidy : Segment.Tidy segments)
    (member : span ∈ Segment.spansAll 0 segments) {position : Nat} (behind : span.start < position)
    (before : position + 1 < span.stop) :
    ((Segment.sourceAll segments)[position]? = some '{' →
      ∃ inner ∈ Segment.spansAll 0 segments, inner.Inside span ∧ inner.start = position) ∧
    ((Segment.sourceAll segments)[position]? = some '}' →
      ∃ inner ∈ Segment.spansAll 0 segments, inner.Inside span ∧ inner.stop = position + 1) := by
  obtain ⟨lead, children, rest, placed⟩ := Segment.exists_placed tidy member
  obtain ⟨childrenTidy, braceless, _⟩ := (Segment.tidy_placeholder_iff children).mp placed.tidy
  obtain ⟨place, rfl⟩ := Nat.exists_eq_add_of_lt behind
  have inside : place < (Segment.sourceAll children).length := by
    have stop := placed.stop
    omega
  have read : (Segment.sourceAll segments)[span.start + place + 1]? =
      (Segment.sourceAll children)[place]? := by
    have start := placed.start
    rw [placed.source, List.getElem?_append_right (by omega),
      show span.start + place + 1 - lead.length = place + 1 by omega, List.getElem?_cons_succ,
      List.getElem?_append_left inside]
  have within {inner : Span} (among : inner ∈ Segment.spansAll (span.start + 1) children) :
      inner ∈ Segment.spansAll 0 segments ∧ inner.Inside span := by
    have bounds := Segment.bounds_of_mem_spansAll among
    have stop := placed.stop
    exact ⟨placed.inside among, by omega, by omega⟩
  have found := Segment.exists_span_of_brace childrenTidy braceless (span.start + 1) place
  rw [read]
  constructor
  · intro brace
    obtain ⟨inner, among, start⟩ := found.1 brace
    exact ⟨inner, (within among).1, (within among).2, by omega⟩
  · intro brace
    obtain ⟨inner, among, stop⟩ := found.2 brace
    exact ⟨inner, (within among).1, (within among).2, by omega⟩

theorem unescaped_of_mem_spansAll (tidy : Segment.Tidy segments)
    (member : span ∈ Segment.spansAll 0 segments) {position : Nat} (from_start : span.start ≤ position)
    (before : position < span.stop) (brace : BraceAt (Segment.sourceAll segments) position) :
    isEscaped? (Segment.sourceAll segments) position = some false := by
  obtain ⟨opens, close, stop, _, closes⟩ := braces_of_mem_spansAll tidy member
  rcases Nat.eq_or_lt_of_le from_start with rfl | behind
  · exact opens.2
  · by_cases last : position = close
    · subst last
      exact closes.2
    · obtain ⟨opening, closing⟩ := exists_inner_of_brace tidy member behind (by omega)
      rcases brace with brace | brace
      · obtain ⟨inner, among, _, rfl⟩ := opening brace
        exact (braces_of_mem_spansAll tidy among).1.2
      · obtain ⟨inner, among, _, ends⟩ := closing brace
        obtain ⟨_, closed, stop, _, closes⟩ := braces_of_mem_spansAll tidy among
        obtain rfl : closed = position := by omega
        exact closes.2

end

theorem ofText_laminar (text : Text) : (ofText text).Laminar text := by
  obtain ⟨segments, formed, rfl⟩ := Segment.exists_wellFormed text
  have tidy := formed.toTidy
  have member {span : Span} (has : (ofText (Segment.sourceAll segments)).Has span) :
      span ∈ Segment.spansAll 0 segments := (has_ofText_iff formed).mp has
  refine ⟨?_, ?_, ?_, ?_, ?_, ?_⟩
  · intro span has
    exact braces_of_mem_spansAll tidy (member has)
  · intro one other hasOne hasOther same
    by_contra different
    rcases Segment.spansAll_ordered (member hasOne) (member hasOther) different with order | order
    · exact Nat.ne_of_lt order.1 same
    · exact Nat.ne_of_gt order.1 same
  · intro one other hasOne hasOther different
    rcases Segment.spansAll_ordered (member hasOne) (member hasOther) different with order | order
    · exact order.apart_or_inside.imp_right Or.inl
    · exact order.apart_or_inside.imp Or.symm Or.inr
  · intro span has position
    exact unescaped_of_mem_spansAll tidy (member has)
  · intro span has position behind before brace
    obtain ⟨inner, among, found⟩ :=
      (exists_inner_of_brace tidy (member has) behind before).1 brace
    exact ⟨inner, (has_ofText_iff formed).mpr among, found⟩
  · intro span has position behind before brace
    obtain ⟨inner, among, found⟩ :=
      (exists_inner_of_brace tidy (member has) behind before).2 brace
    exact ⟨inner, (has_ofText_iff formed).mpr among, found⟩

end Groups
end Stencil
