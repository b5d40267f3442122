import Stencil.Proofs.Data.Lockstep
import Stencil.Proofs.Render.Follow
import Stencil.Template

/-! The same data in containers of other flavours. A list, a tuple, a deque and a range of the same items
cannot be told apart by a path, nor can mappings of the same entries, in whatever order. -/

namespace Stencil

open Run Segment

section

def Before (stop step number : Int) : Prop :=
  if 0 < step then number < stop else stop < number

/-- The numbers of a range, told without its length: from the start on by the step, as long as they stand
before the end. -/
structure Progression (start stop step : Int) (numbers : List Int) : Prop where
  nonzero : step ≠ 0
  numbers : ∀ (index : Nat) (number : Int), numbers[index]? = some number ↔
    number = start + index * step ∧ Before stop step number

theorem lt_rangeLength_iff {step : Int} (nonzero : step ≠ 0) (start stop : Int) (index : Nat) :
    index < rangeLength start stop step ↔ Before stop step (start + index * step) := by
  obtain negative | positive : step < 0 ∨ 0 < step := by omega
  · have backward : ¬0 < step := by omega
    have fits := Int.le_ediv_iff_mul_le (a := (index : Int) + 1) (b := start - stop - step - 1)
      (c := -step) (by omega)
    rw [Int.add_mul, Int.one_mul, Int.mul_neg] at fits
    simp only [rangeLength, Before, backward, negative, ↓reduceIte, Int.lt_toNat]
    omega
  · have fits := Int.le_ediv_iff_mul_le (a := (index : Int) + 1) (b := stop - start + step - 1)
      (c := step) positive
    rw [Int.add_mul, Int.one_mul] at fits
    simp only [rangeLength, Before, positive, ↓reduceIte, Int.lt_toNat]
    omega

variable {start stop step : Int} {numbers : List Int}

theorem Progression.length_eq (progression : Progression start stop step numbers) :
    numbers.length = rangeLength start stop step := by
  have agree (index : Nat) : index < numbers.length ↔ index < rangeLength start stop step := by
    rw [lt_rangeLength_iff progression.nonzero]
    constructor
    · intro inside
      obtain ⟨same, before⟩ := (progression.numbers index _).mp (List.getElem?_eq_getElem inside)
      rwa [← same]
    · intro before
      have found := (progression.numbers index _).mpr ⟨rfl, before⟩
      exact (List.getElem?_eq_some_iff.mp found).1
  refine Nat.le_antisymm (Nat.le_of_not_lt ?_) (Nat.le_of_not_lt ?_)
  · intro more
    exact Nat.lt_irrefl _ ((agree _).mp more)
  · intro more
    exact Nat.lt_irrefl _ ((agree _).mpr more)

theorem Progression.item?_eq (progression : Progression start stop step numbers) (store : Store)
    (index : Nat) :
    (Value.range start stop step).item? store index = (numbers.map Value.integer)[index]? := by
  rw [Value.item?, List.getElem?_map]
  split
  · rename_i inside
    have before := (lt_rangeLength_iff progression.nonzero start stop index).mp inside
    rw [(progression.numbers index _).mpr ⟨rfl, before⟩]
    rfl
  · rename_i outside
    rw [← progression.length_eq] at outside
    rw [List.getElem?_eq_none (Nat.le_of_not_lt outside)]
    rfl

end

namespace Value

inductive Lists (store : Store) : Value → List Value → Prop
  | stored {address flavour items} : store[address]? = some (.sequence flavour items) →
      Lists store (.object address) items
  | range {start stop step numbers} : Progression start stop step numbers →
      Lists store (.range start stop step) (numbers.map .integer)

def name? : Value → Option Text
  | .text name => some name
  | _ => none

inductive Maps (store : Store) : Value → List (Value × Value) → Prop
  | stored {address flavour entries} : store[address]? = some (.mapping flavour entries) →
      (entries.filterMap fun entry => entry.1.name?).Nodup → Maps store (.object address) entries

mutual

/-- The same data in two stores, but for the flavours of the containers and the order of entries. -/
inductive Matches (left right : Store) : Value → Value → Prop
  | scalar {value} : (value.kind left).isScalar = true → Matches left right value value
  | sequence {first second items others} : first.Lists left items → second.Lists right others →
      List.Forall₂ (Matches left right) items others → Matches left right first second
  | mapping {first second entries others shuffled} : first.Maps left entries →
      second.Maps right others → shuffled.Perm others →
      List.Forall₂ (EntryMatches left right) entries shuffled → Matches left right first second

inductive EntryMatches (left right : Store) : Value × Value → Value × Value → Prop
  | entry {key other item beside} : Matches left right key other → Matches left right item beside →
      EntryMatches left right (key, item) (other, beside)

end

section

variable {store : Store} {value : Value}

theorem Lists.kind {items : List Value} (lists : value.Lists store items) :
    value.kind store = .sequence := by
  cases lists with
  | stored found => rw [Value.kind, found]; rfl
  | range => rfl

theorem Lists.length {items : List Value} (lists : value.Lists store items) :
    value.length store = items.length := by
  cases lists with
  | stored found => rw [Value.length, found]
  | range progression => rw [Value.length, List.length_map, progression.length_eq]

theorem Lists.item? {items : List Value} (lists : value.Lists store items) (index : Nat) :
    value.item? store index = items[index]? := by
  cases lists with
  | stored found => rw [Value.item?, found]
  | range progression => exact progression.item?_eq store index

theorem Maps.kind {entries : List (Value × Value)} (maps : value.Maps store entries) :
    value.kind store = .mapping := by
  cases maps with
  | stored found => rw [Value.kind, found]; rfl

theorem Maps.entry? {entries : List (Value × Value)} (maps : value.Maps store entries) (name : Text) :
    value.entry? store name = entries.lookup (.text name) := by
  cases maps with
  | stored found => rw [Value.entry?, found]

theorem Maps.distinct {entries : List (Value × Value)} (maps : value.Maps store entries) :
    (entries.filterMap fun entry => entry.1.name?).Nodup := by
  cases maps with
  | stored _ distinct => exact distinct

end

section

variable {left right : Store} {first second : Value}

theorem kind_of_isScalar (plain : (first.kind left).isScalar = true) (right : Store) :
    first.kind left = first.kind right := by
  have immediate := isObject_of_isScalar plain
  cases first with
  | object => cases immediate
  | _ => rfl

theorem Matches.kind (same : first.Matches left right second) :
    first.kind left = second.kind right := by
  cases same with
  | scalar plain => exact kind_of_isScalar plain right
  | sequence lists others => rw [lists.kind, others.kind]
  | mapping maps others => rw [maps.kind, others.kind]

theorem Matches.eq_of_isScalar (same : first.Matches left right second)
    (plain : (first.kind left).isScalar = true) : first = second := by
  cases same with
  | scalar => rfl
  | sequence lists =>
      rw [lists.kind] at plain
      cases plain
  | mapping maps =>
      rw [maps.kind] at plain
      cases plain

theorem Matches.beq_text (same : first.Matches left right second) (name : Text) :
    (Value.text name == first) = (Value.text name == second) := by
  by_cases scalar : (first.kind left).isScalar = true
  · rw [same.eq_of_isScalar scalar]
  · have other : ¬(second.kind right).isScalar = true := by rwa [← same.kind]
    have differs : Value.text name ≠ first := by
      rintro rfl
      exact scalar rfl
    have differs' : Value.text name ≠ second := by
      rintro rfl
      exact other rfl
    rw [beq_false_of_ne differs, beq_false_of_ne differs']

theorem lookup_matches {entries others : List (Value × Value)}
    (same : List.Forall₂ (EntryMatches left right) entries others) (name : Text) :
    Option.Rel (Matches left right) (entries.lookup (.text name)) (others.lookup (.text name)) := by
  induction same with
  | nil => exact .none
  | cons head _ ih =>
      cases head with
      | entry keys items =>
          rw [List.lookup_cons, List.lookup_cons, keys.beq_text name]
          split
          · exact .some items
          · exact ih

theorem lookup_perm {entries others : List (Value × Value)} (same : entries.Perm others)
    (distinct : (entries.filterMap fun entry => entry.1.name?).Nodup) (name : Text) :
    entries.lookup (.text name) = others.lookup (.text name) := by
  induction same with
  | nil => rfl
  | @cons entry _ _ _ ih =>
      have rest := distinct.sublist ((List.sublist_cons_self entry _).filterMap _)
      rw [List.lookup_cons, List.lookup_cons, ih rest]
  | swap first second rest =>
      obtain ⟨key, item⟩ := first
      obtain ⟨other, beside⟩ := second
      simp only [List.lookup_cons]
      by_cases one : Value.text name = key
      · -- only here would the order decide, and no name has two entries
        by_cases two : Value.text name = other
        · subst one two
          simp [name?] at distinct
        · rw [beq_false_of_ne two]
      · simp [beq_false_of_ne one]
  | trans head _ ih later =>
      rw [ih distinct, later ((head.filterMap _).nodup_iff.mp distinct)]

theorem beq_text_of_name?_eq {key other : Value} (same : key.name? = other.name?) (name : Text) :
    (Value.text name == key) = (Value.text name == other) := by
  have named (value : Value) : Value.text name = value ↔ value.name? = some name := by
    cases value <;> simp [name?, eq_comm]
  rw [Bool.eq_iff_iff, beq_iff_eq, beq_iff_eq, named, named, same]

theorem lookup_of_names {values : Value → Value → Prop} {pairs : Value × Value → Value × Value → Prop}
    (opens : ∀ {entry other}, pairs entry other →
      entry.1.name? = other.1.name? ∧ values entry.2 other.2)
    {entries others : List (Value × Value)} (same : List.Forall₂ pairs entries others) (name : Text) :
    Option.Rel values (entries.lookup (.text name)) (others.lookup (.text name)) := by
  induction same with
  | nil => exact .none
  | @cons entry other _ _ head _ ih =>
      obtain ⟨keys, items⟩ := opens head
      rw [List.lookup_cons, List.lookup_cons, beq_text_of_name?_eq keys name]
      split
      · exact .some items
      · exact ih

theorem Matches.lists (same : first.Matches left right second)
    (sequence : second.kind right = .sequence) :
    ∃ items others, first.Lists left items ∧ second.Lists right others ∧
      List.Forall₂ (Matches left right) items others := by
  cases same with
  | scalar plain =>
      rw [kind_of_isScalar plain right, sequence] at plain
      cases plain
  | sequence lists others items => exact ⟨_, _, lists, others, items⟩
  | mapping _ others =>
      rw [others.kind] at sequence
      cases sequence

theorem Matches.maps (same : first.Matches left right second) (mapping : second.kind right = .mapping) :
    ∃ entries others shuffled, first.Maps left entries ∧ second.Maps right others ∧
      shuffled.Perm others ∧ List.Forall₂ (EntryMatches left right) entries shuffled := by
  cases same with
  | scalar plain =>
      rw [kind_of_isScalar plain right, mapping] at plain
      cases plain
  | sequence _ others =>
      rw [others.kind] at mapping
      cases mapping
  | mapping maps others shuffled entries => exact ⟨_, _, _, maps, others, shuffled, entries⟩

theorem Matches.kind_ne_record (same : first.Matches left right second) :
    second.kind right ≠ .record := by
  intro record
  cases same with
  | scalar plain =>
      rw [kind_of_isScalar plain right, record] at plain
      cases plain
  | sequence _ others =>
      rw [others.kind] at record
      cases record
  | mapping _ others =>
      rw [others.kind] at record
      cases record

theorem matches_lockstep (left right : Store) (worlds : Throughout → World → World → Prop)
    (settings : Settings) : Lockstep left right worlds settings (Matches left right) where
  absent := .scalar rfl
  kind := Matches.kind
  accessor := fun related kind => absurd kind related.kind_ne_record
  length := by
    intro first second same sequence
    obtain ⟨items, others, lists, lists', related⟩ := same.lists sequence
    rw [lists.length, lists'.length, related.length_eq]
  item := by
    intro first second same sequence index
    obtain ⟨items, others, lists, lists', related⟩ := same.lists sequence
    rw [lists.item?, lists'.item?]
    exact getElem?_rel related index
  entry := by
    intro first second same mapping name
    obtain ⟨entries, others, shuffled, maps, maps', reordered, related⟩ := same.maps mapping
    have distinct := (reordered.filterMap _).nodup_iff.mpr maps'.distinct
    rw [maps.entry?, maps'.entry?, ← lookup_perm reordered distinct]
    exact lookup_matches related name

end
end Value

/-- Bindings that differ only in the flavours of their containers cannot be told apart. Every expression
fails on both alike or finds values that again differ only so, scalars being equal; it changes nothing but
the journals, which are told the same. A text without diagnostics is the text of both. -/
theorem flavours_interchangeable {left right : World} {first second : Value}
    (same : first.Matches left.store right.store second) (reentry : Reentry) (settings : Settings) :
    (∀ expression,
      Corresponds
          (fun found beside => found.Matches left.store right.store beside ∧
            ((found.kind left.store).isScalar = true → found = beside))
          ((resolve reentry settings first expression).outcome left).1
          ((resolve reentry settings second expression).outcome right).1 ∧
        ∃ told,
          ((resolve reentry settings first expression).outcome left).2 = left.noting told ∧
          ((resolve reentry settings second expression).outcome right).2 = right.noting told) ∧
      ∀ segments text,
        ((render reentry settings segments first).outcome left).1 = .ok ⟨text, []⟩ →
          ((render reentry settings segments second).outcome right).1 = .ok ⟨text, []⟩ := by
  have resolved := resolve_lockstep (Value.matches_lockstep left.store right.store _ settings)
    (toldAlike_keeping left right) same reentry
  constructor
  · intro expression
    obtain ⟨_, _, told, related⟩ := resolved expression left right (toldAlike_self left right)
    exact ⟨related.imp fun same => ⟨same, same.eq_of_isScalar⟩, told⟩
  · intro segments text given
    refine render_follows ?_ (toldAlike_self left right) segments given
    intro expression
    refine renderExpression_follows (resolved expression) ?_
    rintro found _ _ _ same ⟨told, rfl, rfl⟩ plain
    have kind := same.kind
    have equal := same.eq_of_isScalar plain
    subst equal
    obtain ⟨result, shown⟩ := exists_outcome_coerce plain reentry
    exact ⟨(congrArg Kind.isScalar kind).symm.trans plain, result, shown _, shown _⟩

def listedData : World :=
  { World.empty with
    store := #[.sequence .list [.integer 1, .integer 2, .integer 3],
      .mapping .plain [(.text ['a'], .object 0), (.text ['b'], .integer 2)]] }

def rangedData : World :=
  { World.empty with
    store := #[.mapping .readOnly [(.text ['b'], .integer 2), (.text ['a'], .range 1 4 1)]] }

theorem progression_rangedData : Progression 1 4 1 [1, 2, 3] where
  nonzero := by decide
  numbers := by
    rintro (_ | _ | _ | index) number
    all_goals simp [Before]
    all_goals omega

theorem listedData_matches :
    (Value.object 1).Matches listedData.store rangedData.store (.object 0) := by
  have numbers : List.Forall₂ (Value.Matches listedData.store rangedData.store)
      [.integer 1, .integer 2, .integer 3] ([1, 2, 3].map .integer) :=
    .cons (.scalar rfl) (.cons (.scalar rfl) (.cons (.scalar rfl) .nil))
  refine .mapping (.stored rfl (by decide)) (.stored rfl (by decide)) (List.Perm.swap _ _ _) ?_
  refine .cons (.entry (.scalar rfl) ?_) (.cons (.entry (.scalar rfl) (.scalar rfl)) .nil)
  exact .sequence (.stored rfl) (.range progression_rangedData) numbers

theorem rangedData_renders_alike :
    (Value.object 1).Matches listedData.store rangedData.store (.object 0) ∧
      ((render (.ofDepth 1) .default [.placeholder [.literal ['a', '.'], .placeholder [.literal ['b']]]]
        (.object 0)).outcome rangedData).1 = .ok ⟨['3'], []⟩ := by
  refine ⟨listedData_matches, ?_⟩
  refine (flavours_interchangeable listedData_matches (.ofDepth 1) .default).2 _ _ ?_
  rw [render, renderLoop_eq_renderAllWith]
  rfl

end Stencil
