import Stencil.Proofs.Agreement.Rendering
import Stencil.Proofs.Data.Lockstep
import Stencil.Proofs.Render.Steady

/-! Bindings that stay as they are: data, and where private names are refused, records whose accessors give the
same each time. -/

namespace Stencil

open Run

/-- Sequences and mappings in the store, ranges, scalars, nothing, and records under a guard. -/
def Value.isStill (settings : Settings) (store : Store) : Value → Bool
  | .segments _ | .diagnostics _ => false
  | .object address =>
    match store[address]? with
    | some (.sequence _ _) | some (.mapping _ _) => true
    | some (.record _) => !settings.allowPrivate
    | _ => false
  | value => value.kind store ≠ .record

def Outcome.isStill (settings : Settings) (store : Store) : Outcome → Bool
  | .gives value later => value.isStill settings store && later.isEmpty
  | .raises _ _ => true

def Node.isStill (settings : Settings) (store : Store) : Node → Bool
  | .sequence _ items => items.all (Value.isStill settings store)
  | .mapping _ entries =>
    entries.all fun (key, item) => key.isStill settings store && item.isStill settings store
  | .record self =>
    self.blueprint < store.size && self.attributes.all fun (_, value) => value.isStill settings store
  | .blueprint self => self.members.all fun member => member.outcome.isStill settings store
  | _ => false

def Store.isStill (settings : Settings) (store : Store) : Bool :=
  store.toList.all (Node.isStill settings store)

def Pairing.identity (store : Store) : Pairing :=
  fun left right => left = right ∧ left < store.size

def SameStore (store : Store) (limit : Nat) : Throughout → World → World → Prop :=
  fun _ left right =>
    (left.store = store ∧ right.store = store) ∧ left.limit = limit ∧ right.limit = limit

abbrev Repeats {α : Type} (store : Store) (limit : Nat) (good : α → Prop) (action : Run α) : Prop :=
  Relates (SameStore store limit) .always (fun _ left right => left = right ∧ good left) action action

theorem sameStore_keeping (store : Store) (limit : Nat) : Keeping store store (SameStore store limit) where
  stores := And.left
  noting := fun _ same => same

namespace Repeats

variable {store : Store} {limit : Nat} {α β : Type} {good : α → Prop} {better : β → Prop}

theorem pure {value : α} (holds : good value) : Repeats store limit good (Pure.pure value) :=
  Relates.pure ⟨rfl, holds⟩

theorem ofExcept {result : Except Failure α} (holds : ∀ value, result = .ok value → good value) :
    Repeats store limit good (Run.ofExcept result) := by
  cases result with
  | ok value => exact pure (holds value rfl)
  | error failure => exact Relates.throw failure

theorem bind {action : Run α} {next : α → Run β} (head : Repeats store limit good action)
    (tail : ∀ value, good value → Repeats store limit better (next value)) :
    Repeats store limit better (action >>= next) := by
  refine Relates.bind head ?_
  rintro ⟨⟩ _ value _ ⟨rfl, holds⟩
  exact tail value holds

theorem tryCatch {action : Run α} {handler : Failure → Run α} (body : Repeats store limit good action)
    (rescue : ∀ failure, Repeats store limit good (handler failure)) :
    Repeats store limit good (MonadExcept.tryCatch action handler) := by
  refine Relates.tryCatch body ?_
  rintro ⟨⟩ _ failure
  exact rescue failure

theorem note (event : Event) : Repeats store limit (fun _ => True) (Run.note event) :=
  fun _ _ same => ⟨.always, le_refl _, same, .ok ⟨rfl, trivial⟩⟩

theorem found : Repeats store limit (store = ·) Run.store :=
  fun _ _ same => ⟨.always, le_refl _, same, .ok ⟨same.1.1.trans same.1.2.symm, same.1.1.symm⟩⟩

theorem node? (address : Address) : Repeats store limit (· = store[address]?) (Run.node? address) := by
  refine bind found ?_
  rintro _ rfl
  exact pure rfl

theorem setNode_same {address : Address} {node : Node} (there : store[address]? = some node) :
    Repeats store limit (fun _ => True) (Run.setNode address node) := by
  have kept : store.setIfInBounds address node = store := by
    refine Array.ext_getElem? fun index => ?_
    rw [Array.getElem?_setIfInBounds]
    split
    · rename_i same
      subst same
      split
      · exact there.symm
      · rename_i outside
        rw [Array.getElem?_eq_none (by omega)]
    · rfl
  rintro first second ⟨⟨here, beside⟩, limits⟩
  refine ⟨.always, le_refl _, ⟨⟨?_, ?_⟩, limits⟩, .ok ⟨rfl, trivial⟩⟩
  · exact (congrArg (·.setIfInBounds address node) here).trans kept
  · exact (congrArg (·.setIfInBounds address node) beside).trans kept

end Repeats

section

variable {settings : Settings} {store : Store} {limit : Nat}

theorem isStill_of_getElem? (still : store.isStill settings = true) {address : Address} {node : Node}
    (found : store[address]? = some node) : node.isStill settings store = true :=
  List.all_eq_true.mp still node (Array.mem_toList_iff.mpr (Array.mem_of_getElem? found))

theorem Outcome.afterUse_of_isStill {outcome : Outcome} (still : outcome.isStill settings store = true) :
    outcome.afterUse = outcome := by
  cases outcome with
  | gives value later =>
      simp only [Outcome.isStill, Bool.and_eq_true, List.isEmpty_iff] at still
      rw [still.2]
      rfl
  | raises fault message => rfl

theorem Blueprint.afterUse_of_isStill {blueprint : Blueprint}
    (still : (Node.blueprint blueprint).isStill settings store = true) (name : Text) :
    blueprint.afterUse name = blueprint := by
  have kept (member : Member) (held : member ∈ blueprint.members) :
      (if member.name = name then { member with outcome := member.outcome.afterUse } else member) =
        member := by
    rw [Outcome.afterUse_of_isStill (List.all_eq_true.mp still member held)]
    exact ite_self member
  rw [Blueprint.afterUse, List.map_congr_left kept, List.map_id']

theorem isStill_of_result {outcome : Outcome} (still : outcome.isStill settings store = true) {value : Value}
    (given : outcome.result = .ok value) : value.isStill settings store = true := by
  cases outcome with
  | gives first later =>
      cases given
      simp only [Outcome.isStill, Bool.and_eq_true] at still
      exact still.1
  | raises fault message => cases given

theorem useMember_repeats (still : store.isStill settings = true) (address : Address) (name : Text) :
    Repeats store limit (·.isStill settings store = true) (Run.useMember address name) := by
  refine Repeats.bind (Repeats.node? address) ?_
  rintro _ rfl
  split
  · rename_i blueprint found
    have own := isStill_of_getElem? still found
    split
    · rename_i member named
      rw [Blueprint.afterUse_of_isStill own]
      refine Repeats.bind (Repeats.setNode_same found) fun _ _ => Repeats.ofExcept fun value given => ?_
      exact isStill_of_result (List.all_eq_true.mp own member (List.mem_of_find?_eq_some named)) given
    · exact Repeats.pure rfl
  · exact Repeats.pure rfl

def Reading.IsStill (settings : Settings) (store : Store) : Reading → Prop
  | .missing => True
  | .value found => found.isStill settings store = true
  | .callable (.member _ _) | .callable (.selfless _ _) => True
  | .callable _ => False

section

variable {record : Record} {name : Text}

theorem fallback_isStill (record : Record) (name : Text) :
    (record.fallback name).IsStill settings store := by
  unfold Record.fallback
  split
  · rfl
  · trivial

theorem readProperty_repeats (still : store.isStill settings = true) (record : Record) (name : Text) :
    Repeats store limit (Reading.IsStill settings store) (record.readProperty name) := by
  refine Repeats.tryCatch (Repeats.bind (useMember_repeats still _ name) fun value own => ?_) ?_
  · exact Repeats.pure own
  · intro failure
    split
    · exact Repeats.pure (fallback_isStill record name)
    · exact Relates.throw failure

theorem readMember_repeats (still : store.isStill settings = true) (record : Record) (name : Text)
    (role : Role) : Repeats store limit (Reading.IsStill settings store) (record.readMember name role) := by
  cases role with
  | property => exact readProperty_repeats still record name
  | method | staticMethod | classMethod | selfless => exact Repeats.pure trivial
  | _ => exact Repeats.bind (useMember_repeats still _ name) fun value own => Repeats.pure own

theorem readOwn_repeats (own : (Node.record record).isStill settings store = true) {otherwise : Run Reading}
    (others : Repeats store limit (Reading.IsStill settings store) otherwise) :
    Repeats store limit (Reading.IsStill settings store) (record.readOwn name otherwise) := by
  simp only [Node.isStill, Bool.and_eq_true] at own
  unfold Record.readOwn
  split
  · rename_i value found
    obtain ⟨_, _, split, _⟩ := List.lookup_eq_some_iff.mp found
    refine Repeats.pure (List.all_eq_true.mp own.2 (name, value) ?_)
    rw [split]
    simp
  · exact others

theorem record_read_repeats (still : store.isStill settings = true)
    (own : (Node.record record).isStill settings store = true) (seen : isPrivate name = false) :
    Repeats store limit (Reading.IsStill settings store) (record.read name) := by
  refine Repeats.bind (Repeats.node? _) ?_
  rintro _ rfl
  split
  · split
    · rename_i member _
      split
      · exact readProperty_repeats still record name
      · exact readOwn_repeats own (readMember_repeats still record name member.role)
    · rw [if_neg (ne_of_private rfl seen)]
      refine readOwn_repeats own (Repeats.pure ?_)
      unfold Record.readUnnamed
      split
      · rfl
      split
      · rfl
      · exact fallback_isStill record name
  · exact readOwn_repeats own (Repeats.pure (fallback_isStill record name))

variable {address : Address}

theorem lookUp_repeats (still : store.isStill settings = true)
    (found : store[address]? = some (.record record)) (seen : isPrivate name = false) :
    Repeats store limit (Reading.IsStill settings store) ((Value.object address).lookUp name) := by
  have ownRead :
      Repeats store limit (Reading.IsStill settings store) ((Value.object address).readOwn name) := by
    refine Repeats.bind (Repeats.node? address) ?_
    rintro _ rfl
    rw [found]
    exact record_read_repeats still (isStill_of_getElem? still found) seen
  have read : Repeats store limit (Reading.IsStill settings store) ((Value.object address).read name) := by
    refine Repeats.bind ownRead ?_
    · intro reading holds
      split
      · refine Repeats.bind Repeats.found ?_
        rintro _ rfl
        simp only [Value.closedType?, found, Option.bind_some, Node.closedType?]
        exact Repeats.pure trivial
      · exact Repeats.pure holds
  refine Repeats.tryCatch read fun failure => ?_
  split
  · exact Repeats.pure trivial
  · exact Relates.throw failure

theorem settle_repeats {reading : Reading} (holds : reading.IsStill settings store) :
    Repeats store limit (Reading.IsStill settings store) reading.settle := by
  cases reading with
  | value value =>
      change Repeats store limit (Reading.IsStill settings store) (Run.reading value)
      unfold Run.reading
      split
      · rename_i address
        refine Repeats.bind (Repeats.node? address) ?_
        rintro _ rfl
        split
        · rename_i found
          simp [Reading.IsStill, Value.isStill, found] at holds
        · rename_i found
          simp [Reading.IsStill, Value.isStill, found] at holds
        · exact Repeats.pure holds
      · exact Repeats.pure holds
  | _ => exact Repeats.pure holds

def Accessor.IsStill (settings : Settings) (store : Store) : Accessor → Prop
  | .missing | .needsArguments => True
  | .value found => found.isStill settings store = true

theorem access_repeats (still : store.isStill settings = true)
    (found : store[address]? = some (.record record)) (seen : isPrivate name = false) (reentry : Reentry) :
    Repeats store limit (Accessor.IsStill settings store) ((Value.object address).access reentry name) := by
  refine Repeats.bind (Repeats.note _) fun _ _ => ?_
  refine Repeats.bind (lookUp_repeats still found seen) fun reading holds => ?_
  refine Repeats.bind (settle_repeats holds) fun settled holds => ?_
  cases settled with
  | missing => exact Repeats.pure trivial
  | value value => exact Repeats.pure holds
  | callable callee =>
      refine Repeats.bind Repeats.found ?_
      rintro _ rfl
      split
      · refine Repeats.bind (Repeats.note _) fun _ _ => ?_
        have called : Repeats store limit (fun given => given.isStill settings store = true)
            (Bodies.call reentry callee) := by
          cases callee with
          | member blueprint name => exact useMember_repeats still blueprint name
          | selfless typeName name => exact Relates.throw _
          | _ => exact holds.elim
        exact Repeats.bind called fun value own => Repeats.pure own
      · exact Repeats.pure trivial

end

theorem exists_record_of_isStill {value : Value} (own : value.isStill settings store = true)
    (kind : value.kind store = .record) :
    settings.allowPrivate = false ∧
      ∃ address record, value = .object address ∧ store[address]? = some (.record record) := by
  cases value with
  | object address =>
      simp only [Value.isStill] at own
      simp only [Value.kind] at kind
      split at own
      · rename_i found
        rw [found] at kind
        cases kind
      · rename_i found
        rw [found] at kind
        cases kind
      · rename_i record found
        exact ⟨by simpa using own, address, record, rfl, found⟩
      · cases own
  | segments => cases own
  | diagnostics => cases own
  | _ => simp [Value.isStill, kind] at own

theorem stepAccessor_repeats (still : store.isStill settings = true) {value : Value}
    (own : value.isStill settings store = true) (kind : value.kind store = .record) (reentry : Reentry)
    (name expression : Text) :
    Repeats store limit (·.isStill settings store = true)
      (stepAccessor reentry settings value name expression) := by
  obtain ⟨guarded, address, record, rfl, found⟩ := exists_record_of_isStill own kind
  refine Repeats.bind Repeats.found ?_
  rintro _ rfl
  dsimp only
  by_cases hidden : isPrivate name = true
  · rw [hidden, guarded]
    exact Relates.throw_bind _
  · have seen : isPrivate name = false := by simpa using hidden
    rw [seen]
    refine Repeats.bind (access_repeats still found seen reentry) fun accessor holds => ?_
    cases accessor with
    | value value => exact Repeats.pure holds
    | _ => exact Relates.throw _

theorem agrees_self_of_isStill {value : Value} (own : value.isStill settings store = true) :
    value.Agrees (Pairing.identity store) value := by
  cases value with
  | object address =>
      refine .object ⟨rfl, ?_⟩
      by_contra outside
      simp [Value.isStill, outside] at own
  | _ => exact .immediate _ rfl

theorem outcome_agrees_self {outcome : Outcome} (own : outcome.isStill settings store = true) :
    outcome.Agrees (Pairing.identity store) outcome := by
  cases outcome with
  | gives value later =>
      simp only [Outcome.isStill, Bool.and_eq_true, List.isEmpty_iff] at own
      rw [own.2]
      exact .gives (agrees_self_of_isStill own.1) .nil
  | raises fault message => exact .raises fault message

theorem node_agrees_self {node : Node} (own : node.isStill settings store = true) :
    node.Agrees (Pairing.identity store) node := by
  cases node with
  | sequence flavour items =>
      refine .sequence flavour (List.forall₂_same.mpr ?_)
      intro item member
      exact agrees_self_of_isStill (List.all_eq_true.mp own item member)
  | mapping flavour entries =>
      refine .mapping flavour (List.forall₂_same.mpr ?_)
      intro entry member
      have both := List.all_eq_true.mp own entry member
      rw [Bool.and_eq_true] at both
      exact ⟨agrees_self_of_isStill both.1, agrees_self_of_isStill both.2⟩
  | record record =>
      simp only [Node.isStill, Bool.and_eq_true, decide_eq_true_eq] at own
      refine .record ⟨rfl, ⟨rfl, own.1⟩, fun name _ => ?_, rfl, rfl, rfl⟩
      cases found : record.attribute? name with
      | none => exact .none
      | some value =>
          obtain ⟨_, _, split, _⟩ := List.lookup_eq_some_iff.mp found
          refine .some (agrees_self_of_isStill (List.all_eq_true.mp own.2 (name, value) ?_))
          rw [split]
          simp
  | blueprint blueprint =>
      refine .blueprint ⟨rfl, fun name _ => ?_⟩
      cases found : blueprint.find? name with
      | none => exact .none
      | some member =>
          have own := List.all_eq_true.mp own member (List.mem_of_find?_eq_some found)
          exact .some ⟨rfl, rfl, rfl, outcome_agrees_self own⟩
  | _ => cases own

theorem store_agrees_self (still : store.isStill settings = true) :
    Store.Agrees (Pairing.identity store) store store where
  one_to_one := by
    constructor
    · rintro _ _ _ ⟨rfl, _⟩ ⟨rfl, _⟩
      rfl
    · rintro _ _ _ ⟨rfl, _⟩ ⟨rfl, _⟩
      rfl
  nodes := by
    rintro address _ ⟨rfl, inside⟩
    have found : store[address]? = some store[address] := Array.getElem?_eq_getElem inside
    exact ⟨_, _, found, found, node_agrees_self (isStill_of_getElem? still found)⟩

theorem isStill_of_item? (still : store.isStill settings = true) {value item : Value}
    (own : value.isStill settings store = true) {index : Nat} (found : value.item? store index = some item) :
    item.isStill settings store = true := by
  cases value with
  | object address =>
      simp only [Value.item?] at found
      split at found
      · rename_i flavour items stored
        exact List.all_eq_true.mp (isStill_of_getElem? still stored) item (List.mem_of_getElem? found)
      · cases found
  | range start stop step =>
      simp only [Value.item?] at found
      split at found
      · cases found
        rfl
      · cases found
  | segments => cases own
  | diagnostics => cases own
  | _ => cases found

theorem isStill_of_entry? (still : store.isStill settings = true) {value item : Value} {name : Text}
    (found : value.entry? store name = some item) : item.isStill settings store = true := by
  cases value with
  | object address =>
      simp only [Value.entry?] at found
      split at found
      · rename_i flavour entries stored
        obtain ⟨_, _, split, _⟩ := List.lookup_eq_some_iff.mp found
        have both := List.all_eq_true.mp (isStill_of_getElem? still stored) (.text name, item)
          (by rw [split]; simp)
        rw [Bool.and_eq_true] at both
        exact both.2
      · cases found
  | _ => cases found

def SameStill (settings : Settings) (store : Store) : Value → Value → Prop :=
  fun left right => left = right ∧ left.isStill settings store = true

theorem isStill_lockstep (still : store.isStill settings = true) :
    Lockstep store store (SameStore store limit) settings (SameStill settings store) where
  absent := ⟨rfl, rfl⟩
  kind := by
    rintro value _ ⟨rfl, _⟩
    rfl
  accessor := by
    rintro value _ ⟨rfl, own⟩ kind reentry name expression
    exact stepAccessor_repeats still own kind reentry name expression
  length := by
    rintro value _ ⟨rfl, _⟩ _
    rfl
  item := by
    rintro value _ ⟨rfl, own⟩ _ index
    cases found : value.item? store index with
    | none => exact .none
    | some item => exact .some ⟨rfl, isStill_of_item? still own found⟩
  entry := by
    rintro value _ ⟨rfl, own⟩ _ name
    cases found : value.entry? store name with
    | none => exact .none
    | some item => exact .some ⟨rfl, isStill_of_entry? still found⟩

theorem coerce_repeats (still : store.isStill settings = true) (reentry : Reentry) {value : Value}
    (own : value.isStill settings store = true) :
    Repeats store limit (fun _ => True) (value.coerce reentry) := by
  intro first second same
  have stores : Store.Agrees (Pairing.identity store) first.store second.store := by
    rw [same.1.1, same.1.2]
    exact store_agrees_self still
  obtain ⟨result, left, right⟩ :=
    outcome_coerce stores (same.2.1.trans same.2.2.symm) reentry reentry (agrees_self_of_isStill own)
  rw [left, right]
  exact ⟨.always, le_refl _, same, Corresponds.refl (fun _ => ⟨rfl, trivial⟩) result⟩

theorem renderExpression_repeats (still : store.isStill settings = true) (reentry : Reentry)
    {binding : Value} (own : binding.isStill settings store = true) (expression : Text) :
    Repeats store limit (fun _ => True) (renderExpression reentry settings binding expression) := by
  have found := resolve_lockstep (isStill_lockstep still) (sameStore_keeping store limit) ⟨rfl, own⟩ reentry
    expression
  refine Repeats.bind found fun value own => ?_
  refine Repeats.bind Repeats.found ?_
  rintro _ rfl
  exact Repeats.bind (coerce_repeats still reentry own) fun text _ => Repeats.pure trivial

theorem steady_of_isStill {world : World} (still : world.store.isStill settings = true) (reentry : Reentry)
    {binding : Value} (own : binding.isStill settings world.store = true) :
    Steady (renderExpression reentry settings binding) world := by
  have repeats (expression : Text) : Repeats world.store world.limit (fun _ => True)
      (renderExpression reentry settings binding expression) :=
    renderExpression_repeats still reentry own expression
  have kept (earlier : List Text) :
      SameStore world.store world.limit .always
        (worldAfter (renderExpression reentry settings binding) world earlier) world := by
    induction earlier using List.reverseRecOn with
    | nil => exact ⟨⟨rfl, rfl⟩, rfl, rfl⟩
    | append_singleton earlier expression ih =>
        obtain ⟨_, _, same, _⟩ := repeats expression _ world ih
        rw [worldAfter, List.foldl_append]
        exact ⟨⟨same.1.1, rfl⟩, same.2.1, rfl⟩
  intro earlier expression
  obtain ⟨_, _, _, same⟩ := repeats expression _ world (kept earlier)
  exact (same.imp And.left).eq

end
end Stencil
