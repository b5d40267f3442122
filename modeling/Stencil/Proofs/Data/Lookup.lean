import Stencil.Accessor.Scripted
import Stencil.Libraries.Standard
import Stencil.Proofs.Path.Keys
import Stencil.Proofs.Run.Relation
import Stencil.Template

/-! Key expressions on data, where no accessor is read. A path finds what its keys find one after the other,
or fails at the first key that finds nothing, and the failure tells that key. -/

namespace Stencil

open Run

namespace Value

def items (store : Store) : Value → List Value
  | .range start stop step =>
    (List.range (rangeLength start stop step)).map fun index : Nat => .integer (start + index * step)
  | .segments parts => parts.map .segment
  | .diagnostics reports => reports.map .diagnostic
  | .object address =>
    match store[address]? with
    | some (.sequence _ items) => items
    | _ => []
  | _ => []

def entries (store : Store) : Value → List (Value × Value)
  | .object address =>
    match store[address]? with
    | some (.mapping _ entries) => entries
    | _ => []
  | _ => []

inductive Holds (store : Store) (binding : Value) : Value → Prop
  | self : Holds store binding binding
  | item {holder value} : Holds store binding holder → value ∈ holder.items store →
      Holds store binding value
  | entry {holder key value} : Holds store binding holder → (key, value) ∈ holder.entries store →
      Holds store binding value

structure IsPlain (store : Store) (value : Value) : Prop where
  kind : value.kind store ≠ .record
  short : (value.items store).length < Nat.pow 2 63

/-- Sequences, mappings, scalars and nothing, sharing each other and holding themselves as they may. -/
def IsDataGraph (store : Store) (binding : Value) : Prop :=
  ∀ value, binding.Holds store value → value.IsPlain store

/-- What a key finds at a value: an index an item, a name an entry or, where a mapping has none, nothing. -/
inductive Finds (store : Store) : Value → Key → Value → Prop
  | item {node raw index value} : node.kind store = .sequence →
      (node.items store)[index]? = some value → Finds store node ⟨raw, some index⟩ value
  | entry {node raw} : node.kind store = .mapping →
      Finds store node ⟨raw, none⟩ (((node.entries store).lookup (.text raw)).getD .absent)

inductive Fails (store : Store) (expression : Text) : Value → Key → Failure → Prop
  | noSequence {node raw index} : node.kind store ≠ .sequence →
      Fails store expression node ⟨raw, some index⟩
        (.typeMismatch raw expression "sequence".toList (node.kind store).word)
  | outside {node raw index} : node.kind store = .sequence → (node.items store).length ≤ index →
      Fails store expression node ⟨raw, some index⟩
        (.indexOutOfRange raw expression index (node.items store).length)
  | noNames {node raw} : node.kind store ∈ [Kind.sequence, .scalar, .absent] →
      Fails store expression node ⟨raw, none⟩
        (.typeMismatch raw expression "mapping or object".toList (node.kind store).word)

inductive Path (store : Store) : Value → List Key → Value → Prop
  | nil {node} : Path store node [] node
  | cons {node key middle keys value} : Finds store node key middle → Path store middle keys value →
      Path store node (key :: keys) value

section

variable {store : Store} {node : Value}

theorem length_items : (node.items store).length = node.length store := by
  cases node with
  | object address =>
      simp only [items, length]
      cases store[address]? with
      | none => rfl
      | some node => cases node <;> rfl
  | range => simp [items, length]
  | segments => simp [items, length]
  | diagnostics => simp [items, length]
  | _ => rfl

theorem items_eq_nil (other : node.kind store ≠ .sequence) : node.items store = [] := by
  cases node with
  | object address =>
      simp only [kind] at other
      simp only [items]
      split
      · rename_i found
        rw [found] at other
        exact absurd rfl other
      · rfl
  | range | segments | diagnostics => exact absurd rfl other
  | _ => rfl

theorem getElem?_items (index : Nat) : (node.items store)[index]? = node.item? store index := by
  cases node with
  | object address =>
      simp only [items, item?]
      cases store[address]? with
      | none => rfl
      | some node => cases node <;> rfl
  | range start stop step =>
      simp only [items, item?, List.getElem?_map]
      by_cases inside : index < rangeLength start stop step
      · simp [inside]
      · simp [inside]
  | segments => simp [items, item?]
  | diagnostics => simp [items, item?]
  | _ => rfl

theorem lookup_entries (name : Text) :
    (node.entries store).lookup (.text name) = node.entry? store name := by
  cases node with
  | object address =>
      simp only [entries, entry?]
      cases store[address]? with
      | none => rfl
      | some node => cases node <;> rfl
  | _ => rfl

theorem Finds.unique {key : Key} {first second : Value} (one : Finds store node key first)
    (other : Finds store node key second) : first = second := by
  cases one with
  | item _ found =>
      cases other with
      | item _ again => exact Option.some.inj (found.symm.trans again)
  | entry =>
      cases other
      rfl

theorem Finds.held {binding : Value} {key : Key} {value : Value} (finds : Finds store node key value)
    (held : node = .absent ∨ binding.Holds store node) :
    value = .absent ∨ binding.Holds store value := by
  cases finds with
  | item _ found =>
      rcases held with rfl | held
      · cases found
      · exact Or.inr (.item held (List.mem_of_getElem? found))
  | @entry raw mapping =>
      rcases held with rfl | held
      · cases mapping
      · cases found : (node.entries store).lookup (.text raw) with
        | none => exact Or.inl rfl
        | some value =>
            obtain ⟨before, after, split, _⟩ := List.lookup_eq_some_iff.mp found
            have member : (Value.text raw, value) ∈ node.entries store := by
              rw [split]
              simp
            exact Or.inr (.entry held member)

theorem Finds.not_fails {key : Key} {value : Value} (finds : Finds store node key value)
    {expression : Text} {failure : Failure} : ¬Fails store expression node key failure := by
  intro fails
  cases finds with
  | item sequence found =>
      cases fails with
      | noSequence other => exact other sequence
      | outside _ beyond =>
          rw [List.getElem?_eq_none beyond] at found
          cases found
  | entry mapping =>
      cases fails with
      | noNames kind =>
          rw [mapping] at kind
          simp at kind

theorem Fails.unique {key : Key} {expression : Text} {first second : Failure}
    (one : Fails store expression node key first) (other : Fails store expression node key second) :
    first = second := by
  cases one with
  | noSequence different =>
      cases other with
      | noSequence => rfl
      | outside sequence => exact absurd sequence different
  | outside sequence =>
      cases other with
      | noSequence different => exact absurd sequence different
      | outside => rfl
  | noNames =>
      cases other
      rfl

theorem Path.unique {keys : List Key} {first second : Value} (one : Path store node keys first)
    (other : Path store node keys second) : first = second := by
  induction one with
  | nil =>
      cases other
      rfl
  | cons finds _ ih =>
      cases other with
      | cons again rest =>
          rw [← finds.unique again] at rest
          exact ih rest

theorem Path.exists_finds {keys : List Key} {value : Value} (path : Path store node keys value)
    {index : Nat} {key : Key} (there : keys[index]? = some key) :
    ∃ before after, Path store node (keys.take index) before ∧ Finds store before key after := by
  induction path generalizing index with
  | nil => cases there
  | cons finds _ ih =>
      cases index with
      | zero =>
          cases there
          exact ⟨_, _, .nil, finds⟩
      | succ index =>
          obtain ⟨before, after, path, found⟩ := ih there
          exact ⟨before, after, .cons finds path, found⟩

def FailsAt (store : Store) (expression : Text) (binding : Value) (keys : List Key) (index : Nat)
    (failure : Failure) : Prop :=
  ∃ node key, Path store binding (keys.take index) node ∧ keys[index]? = some key ∧
    Fails store expression node key failure

theorem FailsAt.index_unique {expression : Text} {keys : List Key} {index other : Nat}
    {failure another : Failure} (one : FailsAt store expression node keys index failure)
    (second : FailsAt store expression node keys other another) : index = other := by
  have not_before {first last : Nat} {failure another : Failure}
      (one : FailsAt store expression node keys first failure)
      (second : FailsAt store expression node keys last another) : ¬first < last := by
    intro before
    obtain ⟨reached, key, path, there, fails⟩ := one
    obtain ⟨_, _, longer, _, _⟩ := second
    have inside : (keys.take last)[first]? = some key := by
      rw [List.getElem?_take_of_lt before, there]
    obtain ⟨again, _, shorter, finds⟩ := longer.exists_finds inside
    rw [List.take_take, Nat.min_eq_left (Nat.le_of_lt before)] at shorter
    rw [← path.unique shorter] at finds
    exact finds.not_fails fails
  have upper := not_before one second
  have lower := not_before second one
  omega

end
end Value

section

variable {world : World} {node : Value}

theorem stepIndex_finds_or_fails {store : Store} (plain : node.IsPlain store) (raw : Text) (index : Nat)
    (expression : Text) :
    (∃ value, Value.Finds store node ⟨raw, some index⟩ value ∧
        stepIndex store node ⟨raw, some index⟩ index expression = .ok value) ∨
      ∃ failure, Value.Fails store expression node ⟨raw, some index⟩ failure ∧
        stepIndex store node ⟨raw, some index⟩ index expression = .error failure := by
  unfold stepIndex
  by_cases sequence : node.kind store = .sequence
  · have short : ¬greatestLength < node.length store := by
      have bound := plain.short
      rw [Value.length_items] at bound
      change ¬Nat.pow 2 63 - 1 < node.length store
      omega
    simp only [sequence, ne_eq, not_true_eq_false, short, ↓reduceIte]
    cases found : node.item? store index with
    | some value =>
        left
        rw [← Value.getElem?_items] at found
        exact ⟨value, .item sequence found, rfl⟩
    | none =>
        right
        rw [← Value.getElem?_items] at found
        refine ⟨_, .outside sequence (List.getElem?_eq_none_iff.mp found), ?_⟩
        rw [Value.length_items]
        rfl
  · right
    simp only [ne_eq, sequence, not_false_eq_true, ↓reduceIte]
    exact ⟨_, .noSequence sequence, rfl⟩

theorem step_finds_or_fails (plain : node.IsPlain world.store) (reentry : Reentry) (settings : Settings)
    (expression : Text) (key : Key) :
    (∃ value, Value.Finds world.store node key value ∧
        (step reentry settings expression node key).outcome world = (.ok value, world)) ∨
      ∃ failure, Value.Fails world.store expression node key failure ∧
        (step reentry settings expression node key).outcome world = (.error failure, world) := by
  obtain ⟨raw, index?⟩ := key
  cases index? with
  | some index =>
      have stepped : (step reentry settings expression node ⟨raw, some index⟩).outcome world =
          (stepIndex world.store node ⟨raw, some index⟩ index expression, world) := by
        rw [step, outcome_bind, outcome_store]
        exact outcome_ofExcept _ world
      rw [stepped]
      obtain ⟨value, finds, given⟩ | ⟨failure, fails, given⟩ :=
        stepIndex_finds_or_fails plain raw index expression
      · exact Or.inl ⟨value, finds, by rw [given]⟩
      · exact Or.inr ⟨failure, fails, by rw [given]⟩
  | none =>
      rw [step, stepName, outcome_bind, outcome_store]
      cases kind : node.kind world.store with
      | mapping =>
          left
          refine ⟨_, .entry kind, ?_⟩
          rw [Value.lookup_entries]
          simp [kind]
      | record => exact absurd kind plain.kind
      | sequence | scalar | absent =>
          right
          refine ⟨_, .noNames (by simp [kind]), ?_⟩
          simp [kind]
          rfl

theorem outcome_step_of_finds (plain : node.IsPlain world.store) {key : Key} {value : Value}
    (finds : Value.Finds world.store node key value) (reentry : Reentry) (settings : Settings)
    (expression : Text) :
    (step reentry settings expression node key).outcome world = (.ok value, world) := by
  obtain ⟨other, again, stepped⟩ | ⟨failure, fails, _⟩ :=
    step_finds_or_fails plain reentry settings expression key
  · rw [stepped, finds.unique again]
  · exact absurd fails finds.not_fails

theorem outcome_step_of_fails (plain : node.IsPlain world.store) {key : Key} {expression : Text}
    {failure : Failure} (fails : Value.Fails world.store expression node key failure)
    (reentry : Reentry) (settings : Settings) :
    (step reentry settings expression node key).outcome world = (.error failure, world) := by
  obtain ⟨value, finds, _⟩ | ⟨other, again, stepped⟩ :=
    step_finds_or_fails plain reentry settings expression key
  · exact absurd fails finds.not_fails
  · rw [stepped, fails.unique again]

theorem walk_finds_or_fails {binding : Value} (data : binding.IsDataGraph world.store)
    (reentry : Reentry) (settings : Settings) (expression : Text) (keys : List Key) :
    ∀ node : Value, node = .absent ∨ binding.Holds world.store node →
      (∃ value, Value.Path world.store node keys value ∧
          (value = .absent ∨ binding.Holds world.store value) ∧
          (walk reentry settings expression node keys).outcome world = (.ok value, world)) ∨
        ∃ index failure, Value.FailsAt world.store expression node keys index failure ∧
          (walk reentry settings expression node keys).outcome world = (.error failure, world) := by
  induction keys with
  | nil =>
      intro node held
      refine Or.inl ⟨node, .nil, held, ?_⟩
      rw [walk_nil, outcome_pure]
  | cons key rest ih =>
      intro node held
      have plain : node.IsPlain world.store := by
        rcases held with rfl | held
        · exact ⟨nofun, by simp [Value.items]⟩
        · exact data node held
      rw [walk, List.foldlM_cons, outcome_bind]
      obtain ⟨middle, finds, stepped⟩ | ⟨failure, fails, stepped⟩ :=
        step_finds_or_fails plain reentry settings expression key
      · rw [stepped]
        obtain ⟨value, path, reached, walked⟩ | ⟨index, failure, failed, walked⟩ :=
          ih middle (finds.held held)
        · exact Or.inl ⟨value, .cons finds path, reached, walked⟩
        · obtain ⟨reached, last, path, there, fails⟩ := failed
          exact Or.inr ⟨index + 1, failure, ⟨reached, last, .cons finds path, there, fails⟩, walked⟩
      · rw [stepped]
        exact Or.inr ⟨0, failure, ⟨node, key, .nil, rfl, fails⟩, rfl⟩

/-- On data an expression with an index of too many digits is not even read. Any other finds what its keys
find, a value of the binding or nothing, or it fails at one of its keys, the first that finds nothing, with
the failure of that key. It changes nothing, and only a value found is noted. -/
theorem resolve_finds_or_fails_at_first {binding : Value} (data : binding.IsDataGraph world.store)
    (reentry : Reentry) (settings : Settings) (expression : Text) :
    (¬Expression.Readable expression →
      ∃ raw ∈ Expression.pieces expression, Key.isTooLong raw = true ∧
        (resolve reentry settings binding expression).outcome world =
          (.error (.longNumeral raw.length), world)) ∧
      (Expression.Readable expression →
        (∃ value, Value.Path world.store binding (Expression.keysOf expression) value ∧
            (value = .absent ∨ binding.Holds world.store value) ∧
            ∃ told, (resolve reentry settings binding expression).outcome world =
              (.ok value, world.noting told)) ∨
          ∃ index failure,
            Value.FailsAt world.store expression binding (Expression.keysOf expression) index failure ∧
              (∀ other another, Value.FailsAt world.store expression binding
                (Expression.keysOf expression) other another → other = index) ∧
              (resolve reentry settings binding expression).outcome world = (.error failure, world)) := by
  constructor
  · intro unreadable
    obtain ⟨raw, member, long, parsed⟩ := Expression.parse_of_not_readable unreadable
    refine ⟨raw, member, long, ?_⟩
    rw [resolve, outcome_bind, parsed, outcome_ofExcept]
  · intro readable
    rw [resolve, outcome_bind, Expression.parse_of_readable readable, outcome_ofExcept]
    dsimp only
    rw [outcome_bind]
    obtain ⟨value, path, held, walked⟩ | ⟨index, failure, failed, walked⟩ :=
      walk_finds_or_fails data reentry settings expression (Expression.keysOf expression) binding
        (Or.inr .self)
    · left
      rw [walked]
      exact ⟨value, path, held, _, rfl⟩
    · right
      rw [walked]
      exact ⟨index, failure, failed, fun _ _ other => other.index_unique failed, rfl⟩

def loopedData : World :=
  { World.empty with
    store := #[.sequence .list [.object 1, .integer 7], .mapping .plain [(.text ['a'], .object 0)]] }

theorem loopedData_isDataGraph : (Value.object 0).IsDataGraph loopedData.store := by
  have inside (value : Value) (held : (Value.object 0).Holds loopedData.store value) :
      value ∈ [Value.object 0, .object 1, .integer 7] := by
    induction held with
    | self => simp
    | item _ member ih =>
        simp only [List.mem_cons, List.not_mem_nil, or_false] at ih
        rcases ih with rfl | rfl | rfl
        · change _ ∈ [Value.object 1, .integer 7] at member
          exact List.mem_cons_of_mem _ member
        · cases member
        · cases member
    | entry _ member ih =>
        simp only [List.mem_cons, List.not_mem_nil, or_false] at ih
        rcases ih with rfl | rfl | rfl
        · cases member
        · change _ ∈ [(Value.text ['a'], Value.object 0)] at member
          simp only [List.mem_singleton, Prod.mk.injEq] at member
          simp [member.2]
        · cases member
  intro value held
  have member := inside value held
  simp only [List.mem_cons, List.not_mem_nil, or_false] at member
  rcases member with rfl | rfl | rfl
  · exact ⟨nofun, by decide⟩
  · exact ⟨nofun, by decide⟩
  · exact ⟨nofun, by decide⟩

theorem loopedData_fails_at_index :
    (resolve (.ofDepth 1) .default (.object 0) "0.a.5:x".toList).outcome loopedData =
        (.error (.indexOutOfRange ['5'] "0.a.5:x".toList 5 2), loopedData) ∧
      ∀ other another, Value.FailsAt loopedData.store "0.a.5:x".toList (.object 0)
        [⟨['0'], some 0⟩, ⟨['a'], none⟩, ⟨['5'], some 5⟩] other another → other = 2 := by
  have ended : (resolve (.ofDepth 1) .default (.object 0) "0.a.5:x".toList).outcome loopedData =
      (.error (.indexOutOfRange ['5'] "0.a.5:x".toList 5 2), loopedData) := by
    rfl
  have keys : Expression.keysOf "0.a.5:x".toList =
      [⟨['0'], some 0⟩, ⟨['a'], none⟩, ⟨['5'], some 5⟩] := by
    decide
  have last : Value.FailsAt loopedData.store "0.a.5:x".toList (.object 0)
      (Expression.keysOf "0.a.5:x".toList) 2 (.indexOutOfRange ['5'] "0.a.5:x".toList 5 2) := by
    rw [keys]
    have first : Value.Finds loopedData.store (.object 0) ⟨['0'], some 0⟩ (.object 1) := .item rfl rfl
    have second : Value.Finds loopedData.store (.object 1) ⟨['a'], none⟩ (.object 0) := .entry rfl
    exact ⟨.object 0, _, .cons first (.cons second .nil), rfl, .outside rfl (by decide)⟩
  obtain ⟨_, _, _, _, found⟩ | ⟨index, _, _, only, _⟩ :=
    (resolve_finds_or_fails_at_first loopedData_isDataGraph (.ofDepth 1) .default
      "0.a.5:x".toList).2 (by decide)
  · rw [ended] at found
    cases found
  · rw [← keys]
    refine ⟨ended, fun other another fails => ?_⟩
    rw [only other another fails, only 2 _ last]

end
end Stencil
