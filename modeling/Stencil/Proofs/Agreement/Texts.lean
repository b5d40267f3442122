import Stencil.Coerce
import Stencil.Proofs.Agreement.Values
import Stencil.Proofs.Run.Relation

/-! Values that agree have one text: the same debug text, the same JSON, and the same text in the place of
a placeholder, and the same failure where there is none. -/

namespace Stencil

open Run

section

variable {paired : Pairing} {left right : Store}

theorem mapM_eq {α β γ : Type} {inner : α → Except Failure γ} {outer : β → Except Failure γ}
    {firsts : List α} {seconds : List β}
    (same : List.Forall₂ (fun first second => inner first = outer second) firsts seconds) :
    firsts.mapM inner = seconds.mapM outer := by
  induction same with
  | nil => rfl
  | cons head _ ih => rw [List.mapM_cons, List.mapM_cons, head, ih]

namespace Value

theorem entriesText_eq {inner outer : Value → Except Failure Text}
    (same : ∀ first second, first.Agrees paired second → inner first = outer second)
    {entries others : List (Value × Value)}
    (agree : List.Forall₂ (EntryAgrees paired) entries others) :
    entriesText inner entries = entriesText outer others := by
  apply mapM_eq
  refine agree.imp ?_
  rintro ⟨key, item⟩ ⟨otherKey, otherItem⟩ ⟨keys, items⟩
  dsimp only
  rw [same _ _ keys, same _ _ items]

theorem nodeText_eq {inner outer : Value → Except Failure Text}
    (same : ∀ first second, first.Agrees paired second → inner first = outer second)
    {node other : Node} (agree : node.Agrees paired other) :
    nodeText inner node = nodeText outer other := by
  cases agree with
  | sequence flavour items => simp only [nodeText, mapM_eq (items.imp same)]
  | mapping flavour entries => simp only [nodeText, entriesText_eq same entries]
  | set frozen items => simp only [nodeText, mapM_eq (items.imp same)]
  | record agree => simp only [nodeText, agree.debug]
  | blueprint agree =>
      simp only [nodeText]
      unfold Blueprint.debugText
      rw [agree.typeName]
  | routine agree => simp only [nodeText, agree.bound]
  | builtin agree =>
      simp only [nodeText]
      cases agree <;> rfl
  | stream => rfl
  | generator => rfl

theorem cycleMark?_eq {node other : Node} (agree : node.Agrees paired other) :
    cycleMark? node = cycleMark? other := by
  cases agree with
  | sequence flavour items => cases flavour <;> rfl
  | mapping flavour entries => cases flavour <;> rfl
  | _ => rfl

theorem debugFrom_immediate (store : Store) (depth : Nat) (entered : List Address) {value : Value}
    (plain : value.isObject = false) : debugFrom store depth entered value = leafText depth value := by
  cases value with
  | object => cases plain
  | _ => cases depth <;> rfl

theorem debugFrom_eq (stores : Store.Agrees paired left right) :
    ∀ depth {entered others first second}, List.Forall₂ paired entered others →
      Value.Agrees paired first second →
      debugFrom left depth entered first = debugFrom right depth others second := by
  intro depth
  induction depth with
  | zero =>
      intro entered others first second _ agree
      cases agree with
      | immediate _ plain => rw [debugFrom_immediate _ _ _ plain, debugFrom_immediate _ _ _ plain]
      | object related => rfl
  | succ depth ih =>
      intro entered others first second inside agree
      cases agree with
      | immediate _ plain => rw [debugFrom_immediate _ _ _ plain, debugFrom_immediate _ _ _ plain]
      | @object address another related =>
          obtain ⟨node, other, found, found', agree⟩ := stores.nodes related
          simp only [debugFrom, found, found', cycleMark?_eq agree, List.contains_eq_mem]
          cases cycleMark? other with
          | none => exact nodeText_eq (fun _ _ => ih inside) agree
          | some mark =>
              have same := List.rel_mem stores.one_to_one related inside
              by_cases again : another ∈ others
              · simp only [same.mpr again, again, decide_true, ↓reduceIte]
              · simp only [mt same.mp again, again, decide_false, Bool.false_eq_true, ↓reduceIte]
                exact nodeText_eq (fun _ _ => ih (.cons related inside)) agree

theorem debugText_eq (stores : Store.Agrees paired left right) (depth : Nat) {first second : Value}
    (agree : first.Agrees paired second) : debugText left depth first = debugText right depth second :=
  debugFrom_eq stores depth .nil agree

theorem ownText_eq (stores : Store.Agrees paired left right) (depth : Nat) {first second : Value}
    (agree : first.Agrees paired second) : ownText left depth first = ownText right depth second := by
  cases agree with
  | immediate _ plain =>
      cases first with
      | object => cases plain
      | _ => rfl
  | object related =>
      have whole := debugText_eq stores depth (.object related)
      obtain ⟨node, beside, found, found', agree⟩ := stores.nodes related
      unfold ownText
      dsimp only
      rw [found, found']
      cases agree with
      | record agree =>
          dsimp only
          rw [Record.display, Record.display, agree.writing, agree.debug]
      | mapping flavour entries =>
          cases flavour with
          | readOnly =>
              cases depth with
              | zero => exact whole
              | succ depth =>
                  dsimp only
                  rw [entriesText_eq (fun _ _ => debugFrom_eq stores depth (.cons related .nil)) entries]
          | _ => exact whole
      | _ => exact whole

theorem Agrees.template?_eq_none {first second : Value} (agree : first.Agrees paired second)
    (stores : Store.Agrees paired left right) :
    first.template? left = none ∧ second.template? right = none := by
  cases agree with
  | immediate _ plain =>
      cases first with
      | object => cases plain
      | _ => exact ⟨rfl, rfl⟩
  | object related =>
      obtain ⟨node, beside, found, found', agree⟩ := stores.nodes related
      unfold template?
      dsimp only
      rw [found, found']
      cases agree <;> exact ⟨rfl, rfl⟩

end Value
end

section

def Still (world other : World) : Throughout → World → World → Prop :=
  fun _ left right => left = world ∧ right = other

variable {paired : Pairing} {world other : World}

theorem still_of_outcome {α β : Type} {values : α → β → Prop} {left : Run α} {right : Run β}
    {first : α} {second : β} (here : left.outcome world = (.ok first, world))
    (there : right.outcome other = (.ok second, other)) (related : values first second) :
    Relates (Still world other) .always (fun _ => values) left right := by
  rintro _ _ ⟨rfl, rfl⟩
  rw [here, there]
  exact ⟨.always, le_refl _, ⟨rfl, rfl⟩, .ok related⟩

theorem still_store :
    Relates (Still world other) .always (fun _ left right => left = world.store ∧ right = other.store)
      Run.store Run.store :=
  still_of_outcome (outcome_store world) (outcome_store other) ⟨rfl, rfl⟩

theorem still_world :
    Relates (Still world other) .always (fun _ left right => left = world ∧ right = other)
      Run.world Run.world :=
  still_of_outcome (outcome_world world) (outcome_world other) ⟨rfl, rfl⟩

theorem still_node? (address another : Address) :
    Relates (Still world other) .always
      (fun _ left right => left = world.store[address]? ∧ right = other.store[another]?)
      (Run.node? address) (Run.node? another) :=
  still_of_outcome (outcome_node? address world) (outcome_node? another other) ⟨rfl, rfl⟩

theorem display_still (stores : Store.Agrees paired world.store other.store)
    (reentry another : Reentry) (depth : Nat) {first second : Value} (agree : first.Agrees paired second) :
    Alike (Still world other) .always (first.display reentry depth) (second.display another depth) := by
  have same := Value.ownText_eq stores depth agree
  have plain := agree.template?_eq_none stores
  refine Relates.bind still_store ?_
  rintro _ _ _ _ ⟨rfl, rfl⟩
  rw [plain.1, plain.2]
  exact Alike.ofExcept same

namespace Json

theorem fieldName_eq (stores : Store.Agrees paired world.store other.store) {first second : Value}
    (agree : first.Agrees paired second) :
    fieldName world.store first = fieldName other.store second := by
  have named := agree.typeName stores
  cases agree with
  | @object address another related =>
      change throw (Failure.unsupportedKey ((Value.object address).typeName world.store)) = _
      rw [named]
      rfl
  | immediate _ plain =>
      cases first with
      | object => cases plain
      | _ => rfl

theorem ofLeaf_still {display display' : Nat → Value → Run Text} {depth : Nat} {first second : Value}
    (agree : first.Agrees paired second)
    (shown : Alike (Still world other) .always (display depth first) (display' depth second)) :
    Alike (Still world other) .always (ofLeaf display depth first) (ofLeaf display' depth second) := by
  have wrapped : Alike (Still world other) .always (return .string (← display depth first) : Run Json)
      (return .string (← display' depth second)) := by
    refine Relates.bind shown ?_
    rintro _ _ text _ rfl
    exact Relates.pure rfl
  cases agree with
  | object related => exact wrapped
  | immediate _ plain =>
      cases first with
      | object => cases plain
      | absent => exact Relates.pure rfl
      | bool => exact Relates.pure rfl
      | real => exact Relates.pure rfl
      | text => exact Relates.pure rfl
      | diagnostics => exact Relates.pure rfl
      | segments parts =>
          simp only [ofLeaf]
          split
          · exact Relates.pure rfl
          · exact Relates.throw _
      | integer n =>
          simp only [ofLeaf]
          split
          · exact Relates.throw _
          · exact Relates.pure rfl
      | _ => exact wrapped

theorem still_item? {address another : Address} {flavour : SequenceFlavour} {items others : List Value}
    (found : world.store[address]? = some (.sequence flavour items))
    (found' : other.store[another]? = some (.sequence flavour others))
    (agree : List.Forall₂ (Value.Agrees paired) items others) (index : Nat) :
    Relates (Still world other) .always (fun _ => Option.Rel (Value.Agrees paired))
      (Run.item? address index) (Run.item? another index) := by
  refine Relates.bind (still_node? address another) ?_
  rintro _ _ _ _ ⟨rfl, rfl⟩
  rw [found, found']
  exact Relates.pure (getElem?_rel agree index)

theorem encodeItems_still {encodeOne encodeOther : Value → Run Json} {address another : Address}
    {flavour : SequenceFlavour} {items others : List Value}
    (found : world.store[address]? = some (.sequence flavour items))
    (found' : other.store[another]? = some (.sequence flavour others))
    (agree : List.Forall₂ (Value.Agrees paired) items others)
    (each : ∀ first second, first.Agrees paired second →
      Alike (Still world other) .always (encodeOne first) (encodeOther second)) :
    ∀ bound index, Alike (Still world other) .always (encodeItems encodeOne address bound index)
      (encodeItems encodeOther another bound index) := by
  intro bound
  induction bound with
  | zero =>
      intro index
      exact Relates.pure rfl
  | succ bound ih =>
      intro index
      refine Relates.bind (still_item? found found' agree index) ?_
      intro _ _ item beside here
      cases here with
      | none => exact Relates.pure rfl
      | some agree =>
          refine Relates.bind (each _ _ agree) ?_
          rintro _ _ tree _ rfl
          refine Relates.bind (ih (index + 1)) ?_
          rintro _ _ trees _ rfl
          exact Relates.pure rfl

theorem encodeEntry_still (stores : Store.Agrees paired world.store other.store)
    {encodeOne encodeOther : Value → Run Json} {key key' item item' : Value}
    (keys : key.Agrees paired key')
    (one : Alike (Still world other) .always (encodeOne item) (encodeOther item')) :
    Alike (Still world other) .always
      (do
        let name ← Run.ofExcept (fieldName (← Run.store) key)
        let tree ← encodeOne item
        return (name, tree))
      (do
        let name ← Run.ofExcept (fieldName (← Run.store) key')
        let tree ← encodeOther item'
        return (name, tree)) := by
  refine Relates.bind still_store ?_
  rintro _ _ _ _ ⟨rfl, rfl⟩
  refine Relates.bind (Alike.ofExcept (fieldName_eq stores keys)) ?_
  rintro _ _ name _ rfl
  refine Relates.bind one ?_
  rintro _ _ tree _ rfl
  exact Relates.pure rfl

theorem encodeFrom_immediate (display : Nat → Value → Run Text) (depth : Nat) (entered : List Address)
    {value : Value} (plain : value.isObject = false) :
    encodeFrom display depth entered value = ofLeaf display depth value := by
  cases value with
  | object => cases plain
  | _ => cases depth <;> rfl

theorem encodeFrom_still (stores : Store.Agrees paired world.store other.store)
    {display display' : Nat → Value → Run Text}
    (shown : ∀ depth first second, first.Agrees paired second →
      Alike (Still world other) .always (display depth first) (display' depth second)) :
    ∀ {depth entered others first second},
      List.Forall₂ paired entered others → Value.Agrees paired first second →
      Alike (Still world other) .always (encodeFrom display depth entered first)
        (encodeFrom display' depth others second) := by
  intro depth
  induction depth with
  | zero =>
      intro entered others first second _ agree
      have leaf := ofLeaf_still agree (shown 0 _ _ agree)
      cases agree with
      | immediate _ plain =>
          rw [encodeFrom_immediate _ _ _ plain, encodeFrom_immediate _ _ _ plain]
          exact leaf
      | object pair => exact Relates.throw _
  | succ depth ih =>
      intro entered others first second related agree
      have leaf := ofLeaf_still agree (shown (depth + 1) _ _ agree)
      cases agree with
      | immediate _ plain =>
          rw [encodeFrom_immediate _ _ _ plain, encodeFrom_immediate _ _ _ plain]
          exact leaf
      | @object address another pair =>
          obtain ⟨node, beside, found, found', agree⟩ := stores.nodes pair
          have again : entered.contains address = others.contains another := by
            simp only [List.contains_eq_mem, List.rel_mem stores.one_to_one pair related]
          have inner (first second : Value) (agree : first.Agrees paired second) :
              Alike (Still world other) .always (encodeFrom display depth (address :: entered) first)
                (encodeFrom display' depth (another :: others) second) :=
            ih (.cons pair related) agree
          refine Relates.bind (still_node? address another) ?_
          rintro _ _ _ _ ⟨rfl, rfl⟩
          rw [found, found']
          cases agree with
          | @sequence flavour items others agree =>
              have empty : items.isEmpty = others.isEmpty := by cases agree <;> rfl
              dsimp only
              rw [empty, again, agree.length_eq]
              split
              · exact leaf
              · split
                · exact Relates.pure rfl
                · split
                  · exact Relates.throw _
                  · refine Relates.bind (encodeItems_still found found' agree inner _ 0) ?_
                    rintro _ _ trees _ rfl
                    exact Relates.pure rfl
          | mapping flavour agree =>
              dsimp only
              rw [again]
              split
              · exact leaf
              · split
                · exact Relates.throw _
                · refine Relates.bind (Alike.mapM ?_ Throughout.always (le_refl _)) ?_
                  · refine agree.imp ?_
                    rintro ⟨key, item⟩ ⟨key', item'⟩ ⟨keys, items⟩ _ _
                    exact encodeEntry_still stores keys (inner _ _ items)
                  · rintro _ _ fields _ rfl
                    exact Relates.pure rfl
          | _ => exact leaf

end Json

theorem compositeText_still (stores : Store.Agrees paired world.store other.store)
    (reentry another : Reentry) (depth : Nat) {first second : Value} (agree : first.Agrees paired second) :
    Alike (Still world other) .always (first.compositeText reentry depth)
      (second.compositeText another depth) := by
  refine Relates.tryCatch ?_ ?_
  · refine Relates.bind (Json.encodeFrom_still stores ?_ .nil agree) ?_
    · intro depth first second agree
      exact display_still stores reentry another depth agree
    · rintro _ _ tree _ rfl
      exact Relates.pure rfl
  · intro _ _ failure
    split
    · exact display_still stores reentry another depth agree
    · exact Relates.throw failure

theorem coerceByKind_still (stores : Store.Agrees paired world.store other.store)
    (limits : world.limit = other.limit) (reentry another : Reentry) {first second : Value}
    (agree : first.Agrees paired second) :
    Alike (Still world other) .always
      (do
        let world ← Run.world
        match first.kind world.store with
        | .mapping | .sequence => first.compositeText reentry world.limit
        | .record | .scalar | .absent => first.display reentry world.limit)
      (do
        let world ← Run.world
        match second.kind world.store with
        | .mapping | .sequence => second.compositeText another world.limit
        | .record | .scalar | .absent => second.display another world.limit) := by
  have composite := compositeText_still stores reentry another other.limit agree
  have shown := display_still stores reentry another other.limit agree
  refine Relates.bind still_world ?_
  rintro _ _ _ _ ⟨rfl, rfl⟩
  rw [agree.kind stores, limits]
  generalize second.kind _ = kind
  cases kind with
  | mapping => exact composite
  | sequence => exact composite
  | _ => exact shown

theorem coerce_still (stores : Store.Agrees paired world.store other.store)
    (limits : world.limit = other.limit) (reentry another : Reentry) {first second : Value}
    (agree : first.Agrees paired second) :
    Alike (Still world other) .always (first.coerce reentry) (second.coerce another) := by
  have chosen := coerceByKind_still stores limits reentry another agree
  cases agree with
  | object related => exact chosen
  | immediate _ plain =>
      cases first with
      | absent => exact Relates.pure rfl
      | bool => exact Relates.pure rfl
      | bytes => exact Relates.pure rfl
      | byteArray => exact Relates.pure rfl
      | _ => exact chosen

theorem outcome_coerce (stores : Store.Agrees paired world.store other.store)
    (limits : world.limit = other.limit) (reentry another : Reentry) {first second : Value}
    (agree : first.Agrees paired second) :
    ∃ result, (first.coerce reentry).outcome world = (result, world) ∧
      (second.coerce another).outcome other = (result, other) := by
  obtain ⟨_, _, ⟨here, there⟩, same⟩ :=
    coerce_still stores limits reentry another agree world other ⟨rfl, rfl⟩
  exact ⟨_, Prod.ext rfl here, Prod.ext same.eq.symm there⟩

end
end Stencil
