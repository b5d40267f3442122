import Stencil.Proofs.Data.Flavours
import Stencil.Proofs.Data.Lookup

/-! Data that goes on. Items behind the end of a sequence and entries under names that a mapping lacks change
nothing of what was found: a path that finds a value finds it again, and what it finds may only go on itself. -/

namespace Stencil

open Run Segment

namespace Value

mutual

/-- Data that goes on in another store: sequences have more items behind their end, if a sequence of that
length fits, and mappings more entries, under names that they lack. -/
inductive Extends (fits : Nat → Prop) (left right : Store) : Value → Value → Prop
  | scalar {value} : (value.kind left).isScalar = true → Extends fits left right value value
  | sequence {first second items kept added} : first.Lists left items →
      second.Lists right (kept ++ added) → List.Forall₂ (Extends fits left right) items kept →
      added = [] ∨ fits (kept ++ added).length → Extends fits left right first second
  | mapping {first second entries others kept added} : first.Maps left entries →
      second.Maps right others → others.Perm (kept ++ added) →
      List.Forall₂ (EntryExtends fits left right) entries kept → Extends fits left right first second

inductive EntryExtends (fits : Nat → Prop) (left right : Store) : Value × Value → Value × Value → Prop
  | entry {key other item beside} : key.name? = other.name? → Extends fits left right item beside →
      EntryExtends fits left right (key, item) (other, beside)

end

section

variable {fits : Nat → Prop} {left right : Store} {first second : Value}

theorem Extends.kind (extended : first.Extends fits left right second) :
    first.kind left = second.kind right := by
  cases extended with
  | scalar plain => exact kind_of_isScalar plain right
  | sequence lists others => rw [lists.kind, others.kind]
  | mapping maps others => rw [maps.kind, others.kind]

theorem Extends.kind_ne_record (extended : first.Extends fits left right second) :
    first.kind left ≠ .record := by
  intro record
  cases extended with
  | scalar plain =>
      rw [record] at plain
      cases plain
  | sequence lists =>
      rw [lists.kind] at record
      cases record
  | mapping maps =>
      rw [maps.kind] at record
      cases record

theorem Extends.eq_of_isScalar (extended : first.Extends fits left right second)
    (plain : (first.kind left).isScalar = true) : first = second := by
  cases extended with
  | scalar => rfl
  | sequence lists =>
      rw [lists.kind] at plain
      cases plain
  | mapping maps =>
      rw [maps.kind] at plain
      cases plain

theorem Extends.lists (extended : first.Extends fits left right second)
    (sequence : first.kind left = .sequence) :
    ∃ items kept added, first.Lists left items ∧ second.Lists right (kept ++ added) ∧
      List.Forall₂ (Extends fits left right) items kept ∧
        (added = [] ∨ fits (kept ++ added).length) := by
  cases extended with
  | scalar plain =>
      rw [sequence] at plain
      cases plain
  | sequence lists others items short => exact ⟨_, _, _, lists, others, items, short⟩
  | mapping maps =>
      rw [maps.kind] at sequence
      cases sequence

theorem Extends.maps (extended : first.Extends fits left right second)
    (mapping : first.kind left = .mapping) :
    ∃ entries others kept added, first.Maps left entries ∧ second.Maps right others ∧
      others.Perm (kept ++ added) ∧ List.Forall₂ (EntryExtends fits left right) entries kept := by
  cases extended with
  | scalar plain =>
      rw [mapping] at plain
      cases plain
  | sequence lists =>
      rw [lists.kind] at mapping
      cases mapping
  | mapping maps others parts entries => exact ⟨_, _, _, _, maps, others, parts, entries⟩

theorem EntryExtends.opens {entry other : Value × Value}
    (same : EntryExtends fits left right entry other) :
    entry.1.name? = other.1.name? ∧ entry.2.Extends fits left right other.2 := by
  cases same with
  | entry keys items => exact ⟨keys, items⟩

theorem Maps.lookup_of_kept {others kept added : List (Value × Value)}
    (maps : second.Maps right others) (parts : others.Perm (kept ++ added)) {name : Text} {value : Value}
    (found : kept.lookup (.text name) = some value) : second.entry? right name = some value := by
  rw [maps.entry?, lookup_perm parts maps.distinct, List.lookup_append, found]
  rfl

theorem Extends.finds (extended : first.Extends fits left right second) {key : Key} {found : Value}
    (finds : Finds left first key found) (present : found ≠ .absent) :
    ∃ beside, Finds right second key beside ∧ found.Extends fits left right beside := by
  cases finds with
  | @item raw index _ sequence there =>
      obtain ⟨items, kept, added, lists, others, related, _⟩ := extended.lists sequence
      rw [getElem?_items, lists.item?] at there
      have rel := getElem?_rel related index
      rw [there] at rel
      obtain ⟨beside, kept, same⟩ := exists_of_rel_some rel
      refine ⟨beside, .item (extended.kind.symm.trans sequence) ?_, same⟩
      rw [getElem?_items, others.item?, List.getElem?_append_left (List.getElem?_eq_some_iff.mp kept).1,
        kept]
  | @entry raw mapping =>
      obtain ⟨entries, others, kept, added, maps, maps', parts, related⟩ := extended.maps mapping
      have rel := lookup_of_names EntryExtends.opens related raw
      rw [← maps.entry?, ← lookup_entries] at rel
      cases there : (first.entries left).lookup (.text raw) with
      | none =>
          rw [there] at present
          exact absurd rfl present
      | some found =>
          rw [there] at rel
          obtain ⟨beside, kept, same⟩ := exists_of_rel_some rel
          refine ⟨beside, ?_, same⟩
          have again := maps'.lookup_of_kept parts kept
          rw [← lookup_entries] at again
          have finds : Finds right second ⟨raw, none⟩ _ := .entry (extended.kind.symm.trans mapping)
          rwa [again] at finds

theorem Extends.isPlain (extended : first.Extends fits left right second)
    (short : ∀ length, fits length → length < Nat.pow 2 63) (plain : first.IsPlain left) :
    second.IsPlain right := by
  refine ⟨by rw [← extended.kind]; exact plain.kind, ?_⟩
  by_cases sequence : first.kind left = .sequence
  · obtain ⟨items, kept, added, lists, others, related, unchanged | fitting⟩ := extended.lists sequence
    · have bound := plain.short
      rw [length_items, lists.length, related.length_eq] at bound
      rwa [length_items, others.length, unchanged, List.append_nil]
    · rw [length_items, others.length]
      exact short _ fitting
  · rw [items_eq_nil (by rwa [← extended.kind])]
    exact Nat.pow_pos (by decide)

end
end Value

def Walks (reentry : Reentry) (settings : Settings) (expression : Text) (store : Store) (node : Value)
    (keys : List Key) (found : Value) : Prop :=
  ∀ world : World, world.store = store →
    (walk reentry settings expression node keys).outcome world = (.ok found, world)

def Resolves (reentry : Reentry) (settings : Settings) (store : Store) (binding : Value) (expression : Text)
    (found : Value) : Prop :=
  ∀ world : World, world.store = store →
    ∃ told, (resolve reentry settings binding expression).outcome world = (.ok found, world.noting told)

section

variable {fits : Nat → Prop} {world after : World} {reentry : Reentry} {settings : Settings}
variable {expression : Text}

theorem finds_of_outcome_step {node found : Value} {key : Key} (data : node.kind world.store ≠ .record)
    (stepped : (step reentry settings expression node key).outcome world = (.ok found, after)) :
    node.IsPlain world.store ∧ Value.Finds world.store node key found := by
  by_cases short : (node.items world.store).length < Nat.pow 2 63
  · have plain : node.IsPlain world.store := ⟨data, short⟩
    obtain ⟨value, finds, given⟩ | ⟨_, _, given⟩ :=
      step_finds_or_fails plain reentry settings expression key
    · rw [given] at stepped
      cases stepped
      exact ⟨plain, finds⟩
    · rw [given] at stepped
      cases stepped
  · have positive : 0 < Nat.pow 2 63 := Nat.pow_pos (by decide)
    have sequence : node.kind world.store = .sequence := by
      by_contra other
      rw [Value.items_eq_nil other] at short
      exact short positive
    have long : greatestLength < node.length world.store := by
      rw [Value.length_items] at short
      change Nat.pow 2 63 - 1 < _
      omega
    obtain ⟨raw, index?⟩ := key
    cases index? with
    | some index =>
        rw [step, outcome_bind, outcome_store] at stepped
        simp [stepIndex, sequence, long] at stepped
    | none =>
        rw [step, stepName, outcome_bind, outcome_store] at stepped
        simp [sequence] at stepped

theorem not_finds_absent {store : Store} {key : Key} {value : Value} :
    ¬Value.Finds store .absent key value := by
  intro finds
  cases finds with
  | item kind | entry kind => cases kind

theorem eq_absent_of_outcome_walk {keys : List Key} {found : Value}
    (walked : (walk reentry settings expression .absent keys).outcome world = (.ok found, after)) :
    found = .absent := by
  cases keys with
  | nil =>
      cases walked
      rfl
  | cons key rest =>
      rw [walk, List.foldlM_cons] at walked
      obtain ⟨middle, _, stepped, _⟩ := (outcome_bind_eq_ok_iff _ _ _ _ _).mp walked
      exact absurd (finds_of_outcome_step (by simp [Value.kind]) stepped).2 not_finds_absent

theorem Walks.cons {store : Store} {node middle found : Value} {key : Key} {rest : List Key}
    (plain : node.IsPlain store) (finds : Value.Finds store node key middle)
    (walks : Walks reentry settings expression store middle rest found) :
    Walks reentry settings expression store node (key :: rest) found := by
  rintro world rfl
  rw [walk, List.foldlM_cons, outcome_bind, outcome_step_of_finds plain finds]
  exact walks world rfl

theorem Walks.resolves {store : Store} {binding found : Value} {parsed : Expression}
    (parses : Expression.parse expression = .ok parsed)
    (walks : Walks reentry settings expression store binding parsed.keys found) :
    Resolves reentry settings store binding expression found := by
  rintro world rfl
  rw [resolve, outcome_bind, parses, outcome_ofExcept]
  dsimp only
  rw [outcome_bind, walks world rfl]
  exact ⟨_, rfl⟩

theorem walk_extends {left right : Store} (short : ∀ length, fits length → length < Nat.pow 2 63)
    (here : world.store = left) (keys : List Key) {found : Value} (present : found ≠ .absent) :
    ∀ {first second : Value}, first.Extends fits left right second →
      (walk reentry settings expression first keys).outcome world = (.ok found, after) →
        ∃ beside, found.Extends fits left right beside ∧
          Walks reentry settings expression left first keys found ∧
          Walks reentry settings expression right second keys beside := by
  induction keys with
  | nil =>
      intro first second extended walked
      cases walked
      exact ⟨second, extended, fun _ _ => rfl, fun _ _ => rfl⟩
  | cons key rest ih =>
      intro first second extended walked
      rw [walk, List.foldlM_cons] at walked
      obtain ⟨middle, reached, stepped, walked⟩ := (outcome_bind_eq_ok_iff _ _ _ _ _).mp walked
      subst here
      obtain ⟨plain, finds⟩ := finds_of_outcome_step extended.kind_ne_record stepped
      rw [outcome_step_of_finds plain finds] at stepped
      cases stepped
      have on : middle ≠ .absent := by
        rintro rfl
        exact present (eq_absent_of_outcome_walk walked)
      obtain ⟨next, again, extendedNext⟩ := extended.finds finds on
      obtain ⟨beside, same, walks, others⟩ := ih extendedNext walked
      exact ⟨beside, same, walks.cons plain finds, others.cons (extended.isPlain short plain) again⟩

theorem resolve_extends {left right : Store} (short : ∀ length, fits length → length < Nat.pow 2 63)
    {first second found : Value} (extended : first.Extends fits left right second)
    (here : world.store = left)
    (resolved : (resolve reentry settings first expression).outcome world = (.ok found, after))
    (present : found ≠ .absent) :
    ∃ beside, found.Extends fits left right beside ∧
      Resolves reentry settings left first expression found ∧
      Resolves reentry settings right second expression beside := by
  rw [resolve] at resolved
  obtain ⟨parsed, started, read, resolved⟩ := (outcome_bind_eq_ok_iff _ _ _ _ _).mp resolved
  obtain ⟨value, reached, walked, noted⟩ := (outcome_bind_eq_ok_iff _ _ _ _ _).mp resolved
  rw [outcome_ofExcept] at read
  obtain ⟨parses, rfl⟩ := Prod.mk.inj read
  cases noted
  obtain ⟨beside, same, walks, others⟩ := walk_extends short here parsed.keys present extended walked
  exact ⟨beside, same, walks.resolves parses, others.resolves parses⟩

end

/-- What segments come to, given what their expressions come to: the text of all of them, or the first
failure. The segments within a placeholder spell its expression. -/
inductive Fills (fill : Text → Except Failure Text → Prop) : List Segment → Except Failure Text → Prop
  | nil : Fills fill [] (.ok [])
  | literal {text rest result} : Fills fill rest result →
      Fills fill (.literal text :: rest) (result.map (text ++ ·))
  | unspelled {children rest failure} : Fills fill children (.error failure) →
      Fills fill (.placeholder children :: rest) (.error failure)
  | unwritten {children rest expression failure} : Fills fill children (.ok expression) →
      fill expression (.error failure) → Fills fill (.placeholder children :: rest) (.error failure)
  | written {children rest expression text result} : Fills fill children (.ok expression) →
      fill expression (.ok text) → Fills fill rest result →
      Fills fill (.placeholder children :: rest) (result.map (text ++ ·))

def FindsScalar (reentry : Reentry) (settings : Settings) (binding : Value) (world : World)
    (expression : Text) (result : Except Failure Text) : Prop :=
  ∃ found after, (resolve reentry settings binding expression).outcome world = (.ok found, after) ∧
    found.kind world.store = .scalar ∧ ((found.coerce reentry).outcome world).1 = result

def ComesTo (store : Store) (action : Run (Text × List Diagnostic)) (result : Except Failure Text) : Prop :=
  ∀ world : World, world.store = store →
    ∃ told, action.outcome world = (result.map (·, []), world.noting told)

namespace ComesTo

variable {store : Store} {left : Run (Text × List Diagnostic)}

theorem pure (text : Text) : ComesTo store (Pure.pure (text, [])) (.ok text) :=
  fun world _ => ⟨[], by simp [World.noting, Except.map]⟩

theorem fails {failure : Failure} (head : ComesTo store left (.error failure))
    (next : Text × List Diagnostic → Run (Text × List Diagnostic)) :
    ComesTo store (left >>= next) (.error failure) := by
  intro world stored
  obtain ⟨told, failed⟩ := head world stored
  refine ⟨told, ?_⟩
  rw [outcome_bind, failed]
  rfl

theorem join {next : Text → Run (Text × List Diagnostic)} {text : Text} {result : Except Failure Text}
    (change : Text → Text → Text) (head : ComesTo store left (.ok text))
    (tail : ∀ written, written = text → ComesTo store (next written) result) :
    ComesTo store
      (do
        let (text, own) ← left
        let (others, later) ← next text
        return (change text others, own ++ later))
      (result.map (change text)) := by
  intro world stored
  obtain ⟨told, begun⟩ := head world stored
  obtain ⟨more, ended⟩ := tail text rfl (world.noting told) stored
  refine ⟨told ++ more, ?_⟩
  rw [outcome_bind, begun]
  dsimp only [Except.map]
  rw [outcome_bind, ended]
  cases result <;> simp [World.noting, Except.map]

end ComesTo

section

variable {store : Store} {reentry : Reentry} {settings : Settings}

theorem comesTo_renderExpression {binding found : Value} {expression : Text}
    (resolves : Resolves reentry settings store binding expression found)
    (scalar : (found.kind store).isScalar = true) (world : World) :
    ComesTo store (renderExpression reentry settings binding expression)
      ((found.coerce reentry).outcome world).1 := by
  obtain ⟨result, shown⟩ := exists_outcome_coerce scalar reentry
  rintro one rfl
  obtain ⟨told, resolved⟩ := resolves one rfl
  have still : (found.kind (one.noting told).store).isScalar = true := scalar
  refine ⟨told, ?_⟩
  rw [renderExpression, outcome_bind, resolved]
  dsimp only
  rw [outcome_bind, outcome_store]
  dsimp only
  rw [outcome_bind, shown, shown]
  cases result <;> simp [still, Except.map]

theorem comesTo_renderAllWith {fill : Text → Except Failure Text → Prop}
    {segments : List Segment} {result : Except Failure Text} (fills : Fills fill segments result)
    {expand : Text → Run (Text × List Diagnostic)}
    (each : ∀ expression result, fill expression result → ComesTo store (expand expression) result) :
    ComesTo store (renderAllWith expand segments) result := by
  induction fills with
  | nil => exact ComesTo.pure []
  | literal _ ih => exact ComesTo.join (· ++ ·) (ComesTo.pure _) fun _ _ => ih
  | unspelled _ ih => exact (ih.fails _).fails _
  | unwritten _ filled ih =>
      have head : ComesTo store _ (.error _) := ComesTo.join (fun _ text => text) ih (by
        rintro _ rfl
        exact each _ _ filled)
      exact head.fails _
  | written _ filled _ children others =>
      have head : ComesTo store _ (.ok _) := ComesTo.join (fun _ text => text) children (by
        rintro _ rfl
        exact each _ _ filled)
      exact ComesTo.join (· ++ ·) head fun _ _ => others

theorem result_render_of_comesTo {segments : List Segment} {binding : Value} {result : Except Failure Text}
    {world : World}
    (comes : ComesTo world.store (renderAllWith (renderExpression reentry settings binding) segments)
      result) :
    ((render reentry settings segments binding).outcome world).1 = result.map (⟨·, []⟩) := by
  obtain ⟨told, ended⟩ := comes world rfl
  rw [render, renderLoop_eq_renderAllWith, outcome_bind, ended]
  cases result <;> rfl

end

/-- What is found is found again after data was added, by every expression, and where it is a scalar it is
the same. A text whose expressions all find scalars comes to the same as before, without diagnostics. No
sequence may be extended to a length of which its type cannot tell. -/
theorem findings_outlast_extension {left right : World} {first second : Value}
    (extended : first.Extends (· < Nat.pow 2 63) left.store right.store second) (reentry : Reentry)
    (settings : Settings) :
    (∀ expression found after,
      (resolve reentry settings first expression).outcome left = (.ok found, after) → found ≠ .absent →
        ∃ beside told,
          (resolve reentry settings second expression).outcome right = (.ok beside, right.noting told) ∧
            found.Extends (· < Nat.pow 2 63) left.store right.store beside ∧
              (found.kind left.store = .scalar → beside = found)) ∧
      ∀ segments result, Fills (FindsScalar reentry settings first left) segments result →
        ((render reentry settings segments first).outcome left).1 = result.map (⟨·, []⟩) ∧
          ((render reentry settings segments second).outcome right).1 = result.map (⟨·, []⟩) := by
  have short : ∀ length, length < Nat.pow 2 63 → length < Nat.pow 2 63 := fun _ bound => bound
  constructor
  · intro expression found after resolved present
    obtain ⟨beside, same, _, again⟩ := resolve_extends short extended rfl resolved present
    obtain ⟨told, given⟩ := again right rfl
    refine ⟨beside, told, given, same, fun scalar => ?_⟩
    exact (same.eq_of_isScalar (by simp [scalar, Kind.isScalar])).symm
  · intro segments result fills
    have each (expression : Text) (result : Except Failure Text)
        (finds : FindsScalar reentry settings first left expression result) :
        ComesTo left.store (renderExpression reentry settings first expression) result ∧
          ComesTo right.store (renderExpression reentry settings second expression) result := by
      obtain ⟨found, after, resolved, scalar, rfl⟩ := finds
      have present : found ≠ .absent := by
        rintro rfl
        cases scalar
      have plain : (found.kind left.store).isScalar = true := by simp [scalar, Kind.isScalar]
      obtain ⟨beside, same, here, there⟩ := resolve_extends short extended rfl resolved present
      obtain rfl := same.eq_of_isScalar plain
      have plain' : (found.kind right.store).isScalar = true := by rw [← same.kind, plain]
      exact ⟨comesTo_renderExpression here plain left, comesTo_renderExpression there plain' left⟩
    constructor
    · exact result_render_of_comesTo (comesTo_renderAllWith fills fun _ _ finds => (each _ _ finds).1)
    · exact result_render_of_comesTo (comesTo_renderAllWith fills fun _ _ finds => (each _ _ finds).2)

def shortData : World :=
  { World.empty with
    store := #[.mapping .plain [(.text ['a'], .object 1), (.text ['b'], .integer 0)],
      .sequence .list [.integer 7]] }

def longerData : World :=
  { World.empty with
    store := #[.sequence .list [.integer 7, .absent],
      .mapping .plain [(.text ['c'], .object 0), (.text ['a'], .object 0), (.text ['b'], .integer 0)]] }

theorem shortData_extends :
    (Value.object 0).Extends (· < Nat.pow 2 63) shortData.store longerData.store (.object 1) := by
  have lists : (Value.object 0).Lists longerData.store ([.integer 7] ++ [.absent]) := .stored rfl
  have items : (Value.object 1).Extends (· < Nat.pow 2 63) shortData.store longerData.store (.object 0) :=
    .sequence (.stored rfl) lists (.cons (.scalar rfl) .nil) (Or.inr (by decide))
  have parts : List.Perm
      [(Value.text ['c'], Value.object 0), (.text ['a'], .object 0), (.text ['b'], .integer 0)]
      ([(.text ['a'], .object 0), (.text ['b'], .integer 0)] ++ [(.text ['c'], .object 0)]) := by
    decide
  refine .mapping (.stored rfl (by decide)) (.stored rfl (by decide)) parts ?_
  exact .cons (.entry rfl items) (.cons (.entry rfl (.scalar rfl)) .nil)

theorem longerData_renders_alike :
    (Value.object 0).Extends (· < Nat.pow 2 63) shortData.store longerData.store (.object 1) ∧
      ((render (.ofDepth 1) .default [.placeholder [.literal ['a', '.'], .placeholder [.literal ['b']]]]
        (.object 1)).outcome longerData).1 = .ok ⟨['7'], []⟩ := by
  refine ⟨shortData_extends, ?_⟩
  have inner : FindsScalar (.ofDepth 1) .default (.object 0) shortData ['b'] (.ok ['0']) :=
    ⟨.integer 0, _, rfl, rfl, rfl⟩
  have outer : FindsScalar (.ofDepth 1) .default (.object 0) shortData ['a', '.', '0'] (.ok ['7']) :=
    ⟨.integer 7, _, rfl, rfl, rfl⟩
  have name : Fills (FindsScalar (.ofDepth 1) .default (.object 0) shortData) [.literal ['b']]
      (.ok ['b']) := .literal .nil
  have index : Fills (FindsScalar (.ofDepth 1) .default (.object 0) shortData)
      [.placeholder [.literal ['b']]] (.ok ['0']) := .written name inner .nil
  have path : Fills (FindsScalar (.ofDepth 1) .default (.object 0) shortData)
      [.literal ['a', '.'], .placeholder [.literal ['b']]] (.ok ['a', '.', '0']) := .literal index
  exact ((findings_outlast_extension shortData_extends (.ofDepth 1) .default).2 _ _
    (.written path outer .nil)).2

theorem progression_range (length : Nat) :
    Progression 0 length 1 ((List.range length).map Int.ofNat) where
  nonzero := by decide
  numbers := by
    intro index number
    by_cases inside : index < length
    · simp [Before, inside]
      omega
    · simp [Before, inside]
      omega

theorem range_extends (left right : Store) (length more : Nat) :
    (Value.range 0 length 1).Extends (fun _ => True) left right (.range 0 (length + more : Nat) 1) := by
  have numbers : (List.range (length + more)).map Int.ofNat =
      (List.range length).map Int.ofNat ++ ((List.range more).map (length + ·)).map Int.ofNat := by
    rw [List.range_add, List.map_append]
  have lists : (Value.range 0 (length + more : Nat) 1).Lists right _ :=
    .range (progression_range (length + more))
  rw [numbers, List.map_append] at lists
  refine .sequence (.range (progression_range length)) lists ?_ (Or.inr trivial)
  refine List.forall₂_same.mpr ?_
  intro item member
  obtain ⟨_, _, rfl⟩ := List.mem_map.mp member
  exact .scalar rfl

/-- Of a range of `2 ^ 63` numbers no type tells the length, and an index that was good in a shorter one
fails in it. -/
theorem overlong_extension_fails :
    (Value.range 0 3 1).Extends (fun _ => True) #[] #[] (.range 0 (Nat.pow 2 63) 1) ∧
      ((resolve (.ofDepth 1) .default (.range 0 3 1) ['0']).outcome .empty).1 = .ok (.integer 0) ∧
      ((resolve (.ofDepth 1) .default (.range 0 (Nat.pow 2 63) 1) ['0']).outcome .empty).1 =
        .error .lengthOverflow := by
  refine ⟨range_extends #[] #[] 3 (Nat.pow 2 63 - 3), ?_, ?_⟩
  · rfl
  · rfl

end Stencil
