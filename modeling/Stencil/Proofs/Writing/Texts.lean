import Stencil.Proofs.Agreement.Texts

/-! Values that have a text. Containers may share their parts and hold themselves: whatever is met inside
itself shows a mark instead, so that only what is nested too deep, a numeral that is too long, and code of a
record can keep a text from being written. -/

namespace Stencil

open Run

def Node.contents : Node → List Value
  | .sequence _ items | .set _ items => items
  | .mapping _ entries => entries.flatMap fun entry => [entry.1, entry.2]
  | .record _ | .blueprint _ | .routine _ | .builtin _ | .template _ | .stream _ | .generator _ => []

namespace Value

def numbers : Value → List Int
  | .integer n => [n]
  | .fraction numerator denominator => [numerator, denominator]
  | .range start stop step => [start, stop, step]
  | _ => []

inductive Contains (store : Store) (value : Value) : Value → Prop
  | self : Contains store value value
  | part {address node part} : Contains store value (.object address) → store[address]? = some node →
      part ∈ node.contents → Contains store value part

/-- A value that holds no template and no numeral that is too long. The text of a record may fail, if it does
so in a way that another way of writing can make good. -/
structure Spellable (store : Store) (value : Value) : Prop where
  numbers : ∀ part, value.Contains store part → ∀ n ∈ part.numbers, Numeral.exceedsLimit n = false
  templates : ∀ address template, value.Contains store (.object address) →
    store[address]? ≠ some (.template template)
  records : ∀ address record failure, value.Contains store (.object address) →
    store[address]? = some (.record record) → record.display = .error failure →
      failure.isValueOrType = true

/-- The values that the debug text of a value shows, each with the objects that it is inside of, innermost
first. A container with a mark is not entered inside itself. -/
inductive Shows (store : Store) (outer : List Address) (value : Value) : List Address → Value → Prop
  | here : Shows store outer value outer value
  | part {trail address node part} : Shows store outer value trail (.object address) →
      store[address]? = some node → (cycleMark? node = none ∨ address ∉ trail) → part ∈ node.contents →
      Shows store outer value (address :: trail) part

/-- No part of a value is shown further inside than `depth` allows. -/
def FitsText (store : Store) (outer : List Address) (depth : Nat) (value : Value) : Prop :=
  ∀ trail part, value.Shows store outer trail part → trail.length + part.height ≤ outer.length + depth

def Debuggable (store : Store) (value : Value) : Prop :=
  ∀ address record failure, value.Contains store (.object address) →
    store[address]? = some (.record record) → record.debug.result ≠ .error failure

/-- A value whose debug text can be written: it is not nested too deep, and no record in it fails. -/
structure Quotable (store : Store) (depth : Nat) (value : Value) : Prop where
  fits : value.FitsText store [] depth
  debuggable : value.Debuggable store

/-- The text of a value, at every depth from some depth on, whatever becomes of the templates elsewhere. -/
def Displays (world : World) (value : Value) (text : Text) : Prop :=
  ∃ least, ∀ depth, least ≤ depth → ∀ reentry,
    (value.display reentry depth).outcome world = (.ok text, world)

def Notes (store : Store) (entered outer : List Address) : Prop :=
  ∀ address node, store[address]? = some node → cycleMark? node ≠ none → (address ∈ entered ↔ address ∈ outer)

section

variable {store : Store} {outer entered trail : List Address} {address : Address} {node : Node}
variable {value inner part : Value} {depth : Nat}

theorem Contains.around (contains : inner.Contains store value) (found : store[address]? = some node)
    (member : inner ∈ node.contents) : (Value.object address).Contains store value := by
  induction contains with
  | self => exact .part .self found member
  | part _ found member ih => exact .part ih found member

theorem Contains.trans (contains : value.Contains store inner) (further : inner.Contains store part) :
    value.Contains store part := by
  induction further with
  | self => exact contains
  | part _ found member ih => exact .part ih found member

theorem Spellable.inside (spellable : (Value.object address).Spellable store)
    (found : store[address]? = some node) (member : inner ∈ node.contents) : inner.Spellable store where
  numbers := fun other contains => spellable.numbers other (contains.around found member)
  templates := fun other template contains =>
    spellable.templates other template (contains.around found member)
  records := fun other record failure contains =>
    spellable.records other record failure (contains.around found member)

theorem Debuggable.inside (debuggable : (Value.object address).Debuggable store)
    (found : store[address]? = some node) (member : inner ∈ node.contents) : inner.Debuggable store :=
  fun other record failure contains => debuggable other record failure (contains.around found member)

theorem Shows.around (shows : inner.Shows store (address :: outer) trail part)
    (found : store[address]? = some node) (opens : cycleMark? node = none ∨ address ∉ outer)
    (member : inner ∈ node.contents) : (Value.object address).Shows store outer trail part := by
  induction shows with
  | here => exact .part .here found opens member
  | part _ found opens member ih => exact .part ih found opens member

theorem FitsText.inside (fits : (Value.object address).FitsText store outer (depth + 1))
    (found : store[address]? = some node) (opens : cycleMark? node = none ∨ address ∉ outer)
    (member : inner ∈ node.contents) : inner.FitsText store (address :: outer) depth := by
  intro trail part shows
  have bound := fits trail part (shows.around found opens member)
  rw [List.length_cons]
  omega

theorem FitsText.height_le (fits : value.FitsText store outer depth) : value.height ≤ depth := by
  have bound := fits outer value .here
  omega

theorem Notes.cons (notes : Notes store entered outer) (address : Address) :
    Notes store (address :: entered) (address :: outer) := by
  intro other node found marked
  simp only [List.mem_cons, notes other node found marked]

theorem Notes.pass (notes : Notes store entered outer) (found : store[address]? = some node)
    (unmarked : cycleMark? node = none) : Notes store entered (address :: outer) := by
  intro other beside found' marked
  rw [List.mem_cons, notes other beside found' marked]
  constructor
  · exact Or.inr
  · rintro (rfl | held)
    · rw [found] at found'
      cases found'
      exact absurd unmarked marked
    · exact held

theorem integerText_of_short {n : Int} (short : Numeral.exceedsLimit n = false) :
    integerText n = .ok (Numeral.ofInt n) := by
  rw [integerText, short]
  rfl

theorem exists_fractionText {numerator : Int} {denominator : Nat}
    (short : Numeral.exceedsLimit numerator = false)
    (short' : Numeral.exceedsLimit denominator = false) :
    ∃ text, fractionText numerator denominator = .ok text := by
  rw [fractionText, integerText_of_short short, integerText_of_short short']
  split <;> exact ⟨_, rfl⟩

theorem exists_immediateText (short : ∀ n ∈ value.numbers, Numeral.exceedsLimit n = false) :
    ∃ text, immediateText value = .ok text := by
  cases value with
  | integer n => exact ⟨_, integerText_of_short (short n List.mem_cons_self)⟩
  | fraction numerator denominator =>
      simp only [numbers, List.mem_cons, List.not_mem_nil, or_false, forall_eq_or_imp,
        forall_eq] at short
      rw [immediateText, integerText_of_short short.1, integerText_of_short short.2]
      exact ⟨_, rfl⟩
  | range start stop step =>
      simp only [numbers, List.mem_cons, List.not_mem_nil, or_false, forall_eq_or_imp,
        forall_eq] at short
      rw [immediateText, rangeText, integerText_of_short short.1, integerText_of_short short.2.1,
        integerText_of_short short.2.2]
      dsimp only [bind, Except.bind]
      split <;> exact ⟨_, rfl⟩
  | _ => exact ⟨_, rfl⟩

theorem leafText_of_height_le (low : value.height ≤ depth) : leafText depth value = immediateText value :=
  if_pos low

theorem exists_mapM {α β : Type} {each : α → Except Failure β} {items : List α}
    (given : ∀ item ∈ items, ∃ result, each item = .ok result) :
    ∃ results, items.mapM each = .ok results := by
  induction items with
  | nil => exact ⟨[], rfl⟩
  | cons item rest ih =>
      obtain ⟨first, head⟩ := given item List.mem_cons_self
      obtain ⟨others, tail⟩ := ih fun item member => given item (List.mem_cons_of_mem _ member)
      rw [List.mapM_cons, head, tail]
      exact ⟨first :: others, rfl⟩

theorem mapM_congr {α β : Type} {one other : α → Except Failure β} {items : List α}
    (same : ∀ item ∈ items, one item = other item) : items.mapM one = items.mapM other :=
  mapM_eq (List.forall₂_same.mpr same)

section

variable {one other : Value → Except Failure Text} {entries : List (Value × Value)}

theorem exists_entriesText
    (given : ∀ part ∈ entries.flatMap fun entry => [entry.1, entry.2], ∃ text, one part = .ok text) :
    ∃ pieces, entriesText one entries = .ok pieces := by
  refine exists_mapM ?_
  rintro ⟨key, item⟩ member
  obtain ⟨first, keyed⟩ := given key (List.mem_flatMap.mpr ⟨_, member, by simp⟩)
  obtain ⟨second, held⟩ := given item (List.mem_flatMap.mpr ⟨_, member, by simp⟩)
  dsimp only
  rw [keyed, held]
  exact ⟨(first, second), rfl⟩

theorem entriesText_congr
    (same : ∀ part ∈ entries.flatMap fun entry => [entry.1, entry.2], one part = other part) :
    entriesText one entries = entriesText other entries := by
  refine mapM_congr ?_
  rintro ⟨key, item⟩ member
  dsimp only
  rw [same key (List.mem_flatMap.mpr ⟨_, member, by simp⟩),
    same item (List.mem_flatMap.mpr ⟨_, member, by simp⟩)]

theorem nodeText_congr (same : ∀ part ∈ node.contents, one part = other part) :
    nodeText one node = nodeText other node := by
  cases node with
  | sequence flavour items =>
      have pieces : items.mapM one = items.mapM other := mapM_congr same
      rw [nodeText, nodeText, pieces]
  | mapping flavour entries => rw [nodeText, nodeText, entriesText_congr same]
  | set frozen items =>
      have pieces : items.mapM one = items.mapM other := mapM_congr same
      rw [nodeText, nodeText, pieces]
  | _ => rfl

theorem exists_nodeText (given : ∀ part ∈ node.contents, ∃ text, one part = .ok text)
    (debugged : ∀ record failure, node = .record record → record.debug.result ≠ .error failure) :
    ∃ text, nodeText one node = .ok text := by
  cases node with
  | sequence flavour items =>
      obtain ⟨pieces, written⟩ : ∃ pieces, items.mapM one = .ok pieces := exists_mapM given
      rw [nodeText, written]
      exact ⟨_, rfl⟩
  | mapping flavour entries =>
      obtain ⟨pieces, written⟩ := exists_entriesText given
      rw [nodeText, written]
      exact ⟨_, rfl⟩
  | set frozen items =>
      obtain ⟨pieces, written⟩ : ∃ pieces, items.mapM one = .ok pieces := exists_mapM given
      rw [nodeText, written]
      exact ⟨_, rfl⟩
  | record record =>
      rw [nodeText]
      cases written : record.debug.result with
      | ok text => exact ⟨text, rfl⟩
      | error failure => exact absurd written (debugged record failure rfl)
  | _ => exact ⟨_, rfl⟩

end

theorem FitsText.debugFrom_succ (fits : (Value.object address).FitsText store outer (depth + 1))
    (notes : Notes store entered outer) (found : store[address]? = some node) :
    (∃ mark, ∀ more, debugFrom store (more + 1) entered (.object address) = .ok mark) ∨
      ∃ inside, Notes store inside (address :: outer) ∧
        (∀ part ∈ node.contents, part.FitsText store (address :: outer) depth) ∧
        ∀ more, debugFrom store (more + 1) entered (.object address) =
          nodeText (debugFrom store more inside) node := by
  cases marked : cycleMark? node with
  | none =>
      refine Or.inr ⟨entered, notes.pass found marked, fun part member => ?_, fun more => ?_⟩
      · exact fits.inside found (Or.inl marked) member
      · simp only [debugFrom, found, marked]
  | some mark =>
      have noted := notes address node found (by simp [marked])
      by_cases again : address ∈ entered
      · refine Or.inl ⟨mark, fun more => ?_⟩
        simp only [debugFrom, found, marked, List.contains_eq_mem, again, decide_true, ↓reduceIte]
        rfl
      · refine Or.inr ⟨address :: entered, notes.cons address, fun part member => ?_, fun more => ?_⟩
        · exact fits.inside found (Or.inr (mt noted.mpr again)) member
        · simp only [debugFrom, found, marked, List.contains_eq_mem, again, decide_false,
            Bool.false_eq_true, ↓reduceIte]

theorem FitsText.debugFrom_eq : ∀ {depth entered outer value}, value.FitsText store outer depth →
    Notes store entered outer → ∀ more, depth ≤ more →
      debugFrom store more entered value = debugFrom store depth entered value := by
  intro depth
  induction depth with
  | zero =>
      intro entered outer value fits _ more _
      have low := fits.height_le
      cases value with
      | object => exact absurd low (by simp [height])
      | _ =>
          rw [debugFrom_immediate _ _ _ rfl, debugFrom_immediate _ _ _ rfl, leafText_of_height_le low,
            leafText_of_height_le (Nat.le_trans low (Nat.zero_le more))]
  | succ depth ih =>
      intro entered outer value fits notes more enough
      have low := fits.height_le
      cases value with
      | object address =>
          obtain ⟨more, rfl⟩ := Nat.exists_eq_add_one_of_ne_zero (Nat.ne_of_gt (by omega : 0 < more))
          cases found : store[address]? with
          | none => simp only [debugFrom, found]
          | some node =>
              obtain ⟨mark, marked⟩ | ⟨inside, notes', fits', goes⟩ := fits.debugFrom_succ notes found
              · rw [marked, marked]
              · rw [goes, goes]
                exact nodeText_congr fun part member => ih (fits' part member) notes' more (by omega)
      | _ =>
          rw [debugFrom_immediate _ _ _ rfl, debugFrom_immediate _ _ _ rfl, leafText_of_height_le low,
            leafText_of_height_le (Nat.le_trans low enough)]

theorem FitsText.exists_debugFrom : ∀ {depth entered outer value}, value.FitsText store outer depth →
    Notes store entered outer → value.Spellable store → value.Debuggable store →
    ∃ text, debugFrom store depth entered value = .ok text := by
  intro depth
  induction depth with
  | zero =>
      intro entered outer value fits _ spellable _
      have low := fits.height_le
      cases value with
      | object => exact absurd low (by simp [height])
      | _ =>
          rw [debugFrom_immediate _ _ _ rfl, leafText_of_height_le low]
          exact exists_immediateText (spellable.numbers _ .self)
  | succ depth ih =>
      intro entered outer value fits notes spellable debuggable
      have low := fits.height_le
      cases value with
      | object address =>
          cases found : store[address]? with
          | none => exact ⟨_, by simp only [debugFrom, found]; rfl⟩
          | some node =>
              obtain ⟨mark, marked⟩ | ⟨inside, notes', fits', goes⟩ := fits.debugFrom_succ notes found
              · exact ⟨mark, marked depth⟩
              · rw [goes]
                refine exists_nodeText (fun part member => ?_) ?_
                · exact ih (fits' part member) notes' (spellable.inside found member)
                    (debuggable.inside found member)
                · rintro record failure rfl
                  exact debuggable address record failure .self found
      | _ =>
          rw [debugFrom_immediate _ _ _ rfl, leafText_of_height_le low]
          exact exists_immediateText (spellable.numbers _ .self)

theorem Notes.nil (store : Store) : Notes store [] [] :=
  fun _ _ _ _ => Iff.rfl

theorem FitsText.inside_view (fits : (Value.object address).FitsText store [] (depth + 1))
    (found : store[address]? = some node) (member : inner ∈ node.contents) :
    inner.FitsText store [address] depth :=
  fits.inside found (Or.inr List.not_mem_nil) member

theorem ownText_leaf (plain : value.isObject = false) (low : value.height ≤ depth) (more : Nat)
    (enough : depth ≤ more) : ownText store more value = ownText store depth value := by
  cases value with
  | object => cases plain
  | text | decimal | fraction | kindConstant | settings => rfl
  | _ =>
      rw [ownText, ownText, leafText_of_height_le low, leafText_of_height_le (Nat.le_trans low enough)]
      all_goals simp

theorem FitsText.ownText_eq (fits : value.FitsText store [] depth) (more : Nat) (enough : depth ≤ more) :
    ownText store more value = ownText store depth value := by
  have low := fits.height_le
  cases value with
  | object address =>
      obtain ⟨depth, rfl⟩ := Nat.exists_eq_add_one_of_ne_zero (Nat.ne_of_gt low)
      obtain ⟨more, rfl⟩ := Nat.exists_eq_add_one_of_ne_zero (Nat.ne_of_gt (by omega : 0 < more))
      have whole :
          debugText store (more + 1) (.object address) = debugText store (depth + 1) (.object address) :=
        fits.debugFrom_eq (Notes.nil store) _ enough
      unfold ownText
      dsimp only
      cases found : store[address]? with
      | none => exact whole
      | some node =>
          cases node with
          | record record => rfl
          | mapping flavour entries =>
              cases flavour with
              | readOnly =>
                  have same : entriesText (debugFrom store more [address]) entries =
                      entriesText (debugFrom store depth [address]) entries :=
                    entriesText_congr fun part member =>
                      (fits.inside_view found member).debugFrom_eq ((Notes.nil store).cons address) more
                        (by omega)
                  dsimp only
                  rw [same]
              | _ => exact whole
          | _ => exact whole
  | _ => exact ownText_leaf rfl low more enough

theorem Quotable.exists_debugText (quotable : value.Quotable store depth) (spellable : value.Spellable store) :
    ∃ text, debugText store depth value = .ok text :=
  quotable.fits.exists_debugFrom (Notes.nil store) spellable quotable.debuggable

theorem exists_ownText_leaf (plain : value.isObject = false) (low : value.height ≤ depth)
    (short : ∀ n ∈ value.numbers, Numeral.exceedsLimit n = false) :
    ∃ text, ownText store depth value = .ok text := by
  cases value with
  | object => cases plain
  | text content => exact ⟨content, rfl⟩
  | decimal numeral => exact ⟨numeral, rfl⟩
  | kindConstant kind => exact ⟨kind.summary, rfl⟩
  | settings settings => exact ⟨settings.summary, rfl⟩
  | fraction numerator denominator =>
      exact exists_fractionText (short numerator (by simp [numbers])) (short denominator (by simp [numbers]))
  | _ =>
      rw [ownText, leafText_of_height_le low]
      · exact exists_immediateText short
      all_goals simp

theorem Quotable.ownText_or_fails (quotable : value.Quotable store depth) (spellable : value.Spellable store) :
    (∃ text, ownText store depth value = .ok text) ∨
      ∃ address record failure, value = .object address ∧ store[address]? = some (.record record) ∧
        record.display = .error failure := by
  have low := quotable.fits.height_le
  cases value with
  | object address =>
      obtain ⟨depth, rfl⟩ := Nat.exists_eq_add_one_of_ne_zero (Nat.ne_of_gt low)
      have whole := quotable.exists_debugText spellable
      unfold ownText
      dsimp only
      cases found : store[address]? with
      | none => exact Or.inl whole
      | some node =>
          cases node with
          | record record =>
              cases written : record.display with
              | ok text => exact Or.inl ⟨text, written⟩
              | error failure => exact Or.inr ⟨address, record, failure, rfl, found, written⟩
          | mapping flavour entries =>
              cases flavour with
              | readOnly =>
                  obtain ⟨pieces, written⟩ : ∃ pieces,
                      entriesText (debugFrom store depth [address]) entries = .ok pieces := by
                    refine exists_entriesText fun part member => ?_
                    exact (quotable.fits.inside_view found member).exists_debugFrom
                      ((Notes.nil store).cons address) (spellable.inside found member)
                      (quotable.debuggable.inside found member)
                  dsimp only
                  rw [written]
                  exact Or.inl ⟨_, rfl⟩
              | _ => exact Or.inl whole
          | _ => exact Or.inl whole
  | _ => exact Or.inl (exists_ownText_leaf rfl low (spellable.numbers _ .self))

end

section

variable {world : World} {value : Value} {depth : Nat} {text : Text}

theorem Spellable.template?_eq_none (spellable : value.Spellable world.store) :
    value.template? world.store = none := by
  cases value with
  | object address =>
      unfold template?
      dsimp only
      split
      · rename_i template found
        exact absurd found (spellable.templates address template .self)
      · rfl
  | _ => rfl

theorem outcome_display (plain : value.template? world.store = none) (reentry : Reentry) (depth : Nat) :
    (value.display reentry depth).outcome world = (value.ownText world.store depth, world) := by
  rw [display, outcome_bind, outcome_store]
  simp only [plain, outcome_ofExcept]

theorem Displays.unique {first second : Text} (one : value.Displays world first)
    (other : value.Displays world second) : first = second := by
  obtain ⟨least, shown⟩ := one
  obtain ⟨least', shown'⟩ := other
  let idle : Reentry := ⟨fun _ => pure [], fun _ => pure ⟨[], []⟩⟩
  have same := (shown _ (Nat.le_max_left least least') idle).symm.trans
    (shown' _ (Nat.le_max_right least least') idle)
  cases same
  rfl

theorem displays_of_ownText (plain : value.template? world.store = none)
    (fits : value.FitsText world.store [] depth) (written : value.ownText world.store depth = .ok text) :
    value.Displays world text := by
  refine ⟨depth, fun more enough reentry => ?_⟩
  rw [outcome_display plain, fits.ownText_eq more enough, written]

theorem Displays.ownText_eq (displays : value.Displays world text)
    (plain : value.template? world.store = none) (fits : value.FitsText world.store [] depth) :
    value.ownText world.store depth = .ok text := by
  obtain ⟨least, shown⟩ := displays
  have given := shown _ (Nat.le_max_left least depth) ⟨fun _ => pure [], fun _ => pure ⟨[], []⟩⟩
  rw [outcome_display plain, fits.ownText_eq _ (Nat.le_max_right least depth)] at given
  exact congrArg Prod.fst given

end
end Value
end Stencil
