import Stencil.Proofs.Segment.Reparse

/-! The groups that one pass with a stack finds are those that counting finds, from each opening brace on
its own. -/

namespace Stencil

theorem Text.exists_split {text : Text} {offset : Nat} (inside : offset < text.length) :
    ∃ lead c rest, text = lead ++ c :: rest ∧ lead.length = offset := by
  refine ⟨text.take offset, text[offset], text.drop (offset + 1), ?_, ?_⟩
  · rw [List.getElem_cons_drop, List.take_append_drop]
  · exact List.length_take_of_le (Nat.le_of_lt inside)

namespace Groups

/-- Counts the braces that stand open, `depth` of them before the text, up to the closing brace of the
last one, and gives the offset past it. An escaped brace ends the count without a result. -/
def countFrom : Text → (offset : Nat) → (escaped : Bool) → (depth : Nat) → Option Nat
  | [], _, _, _ => none
  | c :: rest, offset, escaped, depth =>
    if c ≠ '{' ∧ c ≠ '}' then countFrom rest (offset + 1) (c = escape) depth
    else if escaped then none
    else if c = '{' then countFrom rest (offset + 1) false (depth + 1)
    else if depth ≤ 1 then some (offset + 1)
    else countFrom rest (offset + 1) false (depth - 1)

def OpensAt (text : Text) (offset : Nat) : Prop :=
  text[offset]? = some '{' ∧ isEscaped? text offset = some false

instance (text : Text) (offset : Nat) : Decidable (OpensAt text offset) :=
  inferInstanceAs (Decidable (_ ∧ _))

def closing? (text : Text) (offset : Nat) : Option Nat :=
  if OpensAt text offset then countFrom (text.drop offset) offset false 0 else none

theorem isEscaped?_append (lead : Text) (c : Char) (rest : Text) :
    isEscaped? (lead ++ c :: rest) lead.length = some (lead.escapesNext false) := by
  rcases List.eq_nil_or_concat' lead with rfl | ⟨init, last, rfl⟩
  · simp [isEscaped?]
  · have behind : ¬((init ++ [last]).length : Int) ≤ 0 := by simp
    have before : (((init ++ [last]).length : Int) - 1).toNat = init.length := by simp
    rw [isEscaped?, if_neg behind, before]
    simp

theorem lt_of_countFrom {text : Text} {stop : Nat} :
    ∀ {offset escaped depth}, countFrom text offset escaped depth = some stop → offset < stop := by
  induction text with
  | nil => simp [countFrom]
  | cons c rest ih =>
      intro offset escaped depth found
      rw [countFrom] at found
      split at found
      · have later := ih found
        omega
      · split at found
        · cases found
        · split at found
          · have later := ih found
            omega
          · split at found
            · cases found
              omega
            · have later := ih found
              omega

theorem lt_of_closing? {text : Text} {offset stop : Nat} (found : closing? text offset = some stop) :
    offset < stop := by
  rw [closing?] at found
  split at found
  · exact lt_of_countFrom found
  · cases found

def search (text : Text) (offset : Nat) : List Span :=
  if offset < text.length then
    match found : closing? text offset with
    | some stop => ⟨offset, stop⟩ :: search text stop
    | none => search text (offset + 1)
  else []
termination_by text.length - offset
decreasing_by
  · have later := lt_of_closing? found
    omega
  · omega

theorem getElem?_scan_of_not_mem (text : Text) {position : Nat} :
    ∀ offset escaped openings groups, position < offset → position ∉ openings →
      (scan text offset escaped openings groups)[position]? = groups[position]? := by
  induction text with
  | nil => simp [scan]
  | cons c rest ih =>
      intro offset escaped openings groups passed closed
      by_cases brace : c = '{' ∨ c = '}'
      · cases escaped with
        | true =>
            rw [scan_escaped _ _ _ _ brace]
            exact ih _ _ _ _ (by omega) List.not_mem_nil
        | false =>
            rcases brace with rfl | rfl
            · rw [scan_opening]
              refine ih _ _ _ _ (by omega) ?_
              rw [List.mem_cons, not_or]
              exact ⟨by omega, closed⟩
            · cases openings with
              | nil =>
                  rw [scan_stray]
                  exact ih _ _ _ _ (by omega) List.not_mem_nil
              | cons start outer =>
                  obtain ⟨different, outside⟩ := not_or.mp (List.mem_cons.not.mp closed)
                  rw [scan_closing, ih _ _ _ _ (by omega) outside, Std.TreeMap.getElem?_insert]
                  simp [Ne.symm different]
      · rw [scan_plain _ _ _ _ brace]
        exact ih _ _ _ _ (by omega) closed

/-- The state of a pass at an offset: the open braces lie behind it, no two at one place, and neither they
nor what is still to come has an entry. -/
structure Standing (offset : Nat) (openings : List Nat) (groups : Groups) : Prop where
  distinct : openings.Nodup
  passed : ∀ start ∈ openings, start < offset
  unclosed : ∀ start ∈ openings, groups[start]? = none
  ahead : ∀ position, offset ≤ position → groups[position]? = none

namespace Standing

variable {offset start : Nat} {openings : List Nat} {groups : Groups}

theorem initial : Standing 0 [] {} := by
  refine ⟨List.nodup_nil, ?_, ?_, ?_⟩ <;> simp

theorem skip (standing : Standing offset openings groups) : Standing (offset + 1) openings groups where
  distinct := standing.distinct
  passed := fun start among => Nat.lt_succ_of_lt (standing.passed start among)
  unclosed := standing.unclosed
  ahead := fun position later => standing.ahead position (by omega)

theorem drop (standing : Standing offset openings groups) : Standing (offset + 1) [] groups where
  distinct := List.nodup_nil
  passed := by simp
  unclosed := by simp
  ahead := standing.skip.ahead

theorem not_mem (standing : Standing offset openings groups) : offset ∉ openings :=
  fun among => Nat.lt_irrefl offset (standing.passed offset among)

theorem enter (standing : Standing offset openings groups) :
    Standing (offset + 1) (offset :: openings) groups where
  distinct := List.nodup_cons.mpr ⟨standing.not_mem, standing.distinct⟩
  passed := List.forall_mem_cons.mpr ⟨Nat.lt_succ_self offset, standing.skip.passed⟩
  unclosed := List.forall_mem_cons.mpr
    ⟨standing.ahead offset (Nat.le_refl offset), standing.unclosed⟩
  ahead := standing.skip.ahead

theorem leave (standing : Standing offset (start :: openings) groups) :
    Standing (offset + 1) openings (groups.insert start (offset + 1)) := by
  obtain ⟨apart, distinct⟩ := List.nodup_cons.mp standing.distinct
  have before : start < offset := standing.passed start List.mem_cons_self
  refine ⟨distinct, ?_, ?_, ?_⟩
  · exact fun other among => standing.skip.passed other (List.mem_cons_of_mem start among)
  · intro other among
    have different : start ≠ other := fun same => apart (same ▸ among)
    have unclosed := standing.unclosed other (List.mem_cons_of_mem start among)
    simpa [Std.TreeMap.getElem?_insert, different] using unclosed
  · intro position later
    have different : start ≠ position := by omega
    simpa [Std.TreeMap.getElem?_insert, different] using standing.ahead position (by omega)

end Standing

theorem getElem?_scan_of_open (text : Text) {position : Nat} :
    ∀ offset escaped openings groups depth, Standing offset openings groups →
      openings[depth]? = some position →
      (scan text offset escaped openings groups)[position]? =
        countFrom text offset escaped (depth + 1) := by
  induction text with
  | nil =>
      intro offset escaped openings groups depth standing isOpen
      simpa [scan, countFrom] using standing.unclosed position (List.mem_of_getElem? isOpen)
  | cons c rest ih =>
      intro offset escaped openings groups depth standing isOpen
      have member : position ∈ openings := List.mem_of_getElem? isOpen
      have before : position < offset + 1 := standing.skip.passed position member
      by_cases brace : c = '{' ∨ c = '}'
      · cases escaped with
        | true =>
            have counted : countFrom (c :: rest) offset true (depth + 1) = none := by
              rcases brace with rfl | rfl <;> simp [countFrom]
            rw [scan_escaped _ _ _ _ brace, counted,
              getElem?_scan_of_not_mem _ _ _ _ _ before List.not_mem_nil]
            exact standing.unclosed position member
        | false =>
            rcases brace with rfl | rfl
            · have deeper := ih _ false _ _ (depth + 1) standing.enter (by simpa using isOpen)
              rw [scan_opening, deeper]
              simp [countFrom]
            · cases openings with
              | nil => simp at member
              | cons start outer =>
                  rw [scan_closing]
                  cases depth with
                  | zero =>
                      rw [List.getElem?_cons_zero, Option.some.injEq] at isOpen
                      subst isOpen
                      have apart := (List.nodup_cons.mp standing.distinct).1
                      rw [getElem?_scan_of_not_mem _ _ _ _ _ before apart]
                      simp [countFrom]
                  | succ depth =>
                      rw [List.getElem?_cons_succ] at isOpen
                      rw [ih _ false _ _ depth standing.leave isOpen]
                      simp [countFrom]
      · rw [scan_plain _ _ _ _ brace, ih _ _ _ _ depth standing.skip isOpen]
        simp [countFrom, not_or.mp brace]

theorem getElem?_scan_append (lead : Text) (c : Char) (rest : Text) :
    ∀ offset escaped openings groups, Standing offset openings groups →
      (scan (lead ++ c :: rest) offset escaped openings groups)[offset + lead.length]? =
        if c = '{' ∧ lead.escapesNext escaped = false then
          countFrom (c :: rest) (offset + lead.length) false 0
        else none := by
  induction lead with
  | nil =>
      intro offset escaped openings groups standing
      have before : offset < offset + 1 := Nat.lt_succ_self offset
      have fresh : groups[offset]? = none := standing.ahead offset (Nat.le_refl offset)
      rw [List.nil_append, List.length_nil, Nat.add_zero, Text.escapesNext_nil]
      by_cases brace : c = '{' ∨ c = '}'
      · cases escaped with
        | true =>
            rw [scan_escaped _ _ _ _ brace,
              getElem?_scan_of_not_mem _ _ _ _ _ before List.not_mem_nil, fresh]
            simp
        | false =>
            rcases brace with rfl | rfl
            · rw [scan_opening, getElem?_scan_of_open _ _ _ _ _ 0 standing.enter rfl]
              simp [countFrom]
            · cases openings with
              | nil =>
                  rw [scan_stray, getElem?_scan_of_not_mem _ _ _ _ _ before List.not_mem_nil, fresh]
                  simp
              | cons start outer =>
                  obtain ⟨different, outside⟩ := not_or.mp (List.mem_cons.not.mp standing.not_mem)
                  rw [scan_closing, getElem?_scan_of_not_mem _ _ _ _ _ before outside]
                  simpa [Std.TreeMap.getElem?_insert, Ne.symm different] using fresh
      · rw [scan_plain _ _ _ _ brace,
          getElem?_scan_of_not_mem _ _ _ _ _ before standing.not_mem, fresh]
        simp [not_or.mp brace]
  | cons first lead ih =>
      intro offset escaped openings groups standing
      rw [List.cons_append, List.length_cons, Text.escapesNext_cons,
        show offset + (lead.length + 1) = offset + 1 + lead.length by omega]
      by_cases brace : first = '{' ∨ first = '}'
      · have next : decide (first = escape) = false := decide_eq_false (ne_escape_of_brace brace)
        rw [next]
        cases escaped with
        | true =>
            rw [scan_escaped _ _ _ _ brace]
            exact ih _ _ _ _ standing.drop
        | false =>
            rcases brace with rfl | rfl
            · rw [scan_opening]
              exact ih _ _ _ _ standing.enter
            · cases openings with
              | nil =>
                  rw [scan_stray]
                  exact ih _ _ _ _ standing.drop
              | cons start outer =>
                  rw [scan_closing]
                  exact ih _ _ _ _ standing.leave
      · rw [scan_plain _ _ _ _ brace]
        exact ih _ _ _ _ standing.skip

theorem bounds_of_getElem?_ofText {text : Text} {start stop : Nat}
    (found : (ofText text)[start]? = some stop) : start + 2 ≤ stop ∧ stop ≤ text.length := by
  obtain ⟨segments, formed, rfl⟩ := Segment.exists_wellFormed text
  have member := (Segment.getElem?_ofText_iff formed start stop).mp found
  have bounds := Segment.bounds_of_mem_spansAll member
  dsimp only at bounds
  omega

theorem getElem?_ofText (text : Text) (offset : Nat) :
    (ofText text)[offset]? = closing? text offset := by
  by_cases inside : offset < text.length
  · obtain ⟨lead, c, rest, rfl, rfl⟩ := Text.exists_split inside
    have entered := getElem?_scan_append lead c rest 0 false [] {} Standing.initial
    rw [Nat.zero_add] at entered
    rw [ofText, entered, closing?]
    simp [OpensAt, isEscaped?_append]
  · have outside : ¬OpensAt text offset := fun opens => by
      simp [OpensAt, List.getElem?_eq_none (Nat.le_of_not_lt inside)] at opens
    rw [closing?, if_neg outside, Option.eq_none_iff_forall_ne_some]
    intro stop found
    have bounds := bounds_of_getElem?_ofText found
    omega

theorem search_of_closing {text : Text} {offset stop : Nat}
    (found : closing? text offset = some stop) :
    search text offset = ⟨offset, stop⟩ :: search text stop := by
  have bounds := bounds_of_getElem?_ofText ((getElem?_ofText text offset).trans found)
  rw [search, if_pos (by omega)]
  split
  · simp_all
  · simp_all

theorem search_of_no_closing {text : Text} {offset : Nat} (inside : offset < text.length)
    (missing : closing? text offset = none) : search text offset = search text (offset + 1) := by
  rw [search, if_pos inside]
  split
  · simp_all
  · rfl

/-- Going over a text with its groups at hand, but not into them, is the search from where the last group
ended. -/
theorem outermostFrom_eq_search (text rest : Text) :
    ∀ offset resume, text.drop offset = rest →
      (ofText text).outermostFrom rest offset resume = search text (max offset resume) := by
  induction rest with
  | nil =>
      intro offset resume dropped
      have passed : text.length ≤ offset := List.drop_eq_nil_iff.mp dropped
      rw [outermostFrom, search, if_neg (by omega)]
  | cons c rest ih =>
      intro offset resume dropped
      have inside : offset < text.length := by
        have := congrArg List.length dropped
        simp only [List.length_drop, List.length_cons] at this
        omega
      have next : text.drop (offset + 1) = rest := by
        rw [← List.tail_drop, dropped, List.tail_cons]
      rw [outermostFrom]
      by_cases skipped : offset < resume
      · rw [if_pos skipped, ih _ _ next, show max (offset + 1) resume = max offset resume by omega]
      · rw [if_neg skipped, getElem?_ofText, show max offset resume = offset by omega]
        cases found : closing? text offset with
        | none =>
            rw [search_of_no_closing inside found]
            dsimp only
            rw [ih _ _ next, show max (offset + 1) resume = offset + 1 by omega]
        | some stop =>
            have later := lt_of_closing? found
            rw [search_of_closing found]
            dsimp only
            rw [ih _ _ next, show max (offset + 1) stop = stop by omega]

/-- A group opens exactly at an unescaped brace from which counting comes back to zero, and ends where it
does so first. The outermost groups are those that the search by counting finds. -/
theorem getElem?_ofText_iff_countFrom_and_outermostSpans_eq_search (text : Text) :
    (∀ offset stop : Nat, (ofText text)[offset]? = some stop ↔
        text[offset]? = some '{' ∧ isEscaped? text offset = some false ∧
          countFrom (text.drop offset) offset false 0 = some stop) ∧
      outermostSpans text = search text 0 := by
  constructor
  · intro offset stop
    rw [getElem?_ofText, closing?]
    by_cases opens : OpensAt text offset
    · rw [if_pos opens]
      obtain ⟨brace, unescaped⟩ := opens
      simp [brace, unescaped]
    · rw [if_neg opens]
      constructor
      · intro impossible
        cases impossible
      · rintro ⟨brace, unescaped, _⟩
        exact absurd ⟨brace, unescaped⟩ opens
  · exact outermostFrom_eq_search text text 0 0 rfl

end Groups
end Stencil
