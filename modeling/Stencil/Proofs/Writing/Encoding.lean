import Mathlib.Data.List.Forall2
import Stencil.Proofs.Writing.Json

/-! The encoding of a value whose parts can be spelled. It changes nothing in the world, and it gives the
tree of the value or fails on something that JSON meets there and has no form for. -/

namespace Stencil

open Run

section

variable {α β γ : Type} {world : World} {bad : Prop}

/-- A run that leaves the world as it is. It gives what `good` says; where `bad` holds it may fail, in a way
that another way of writing can make good. -/
def Run.Settles (world : World) (good : α → Prop) (bad : Prop) (action : Run α) : Prop :=
  (∃ value, action.outcome world = (.ok value, world) ∧ good value) ∨
    ∃ failure, action.outcome world = (.error failure, world) ∧ failure.isValueOrType = true ∧ bad

namespace Run.Settles

variable {good : α → Prop} {better : β → Prop}

theorem pure {value : α} (holds : good value) : Settles world good bad (Pure.pure value) :=
  Or.inl ⟨value, rfl, holds⟩

theorem throw {failure : Failure} (mild : failure.isValueOrType = true) (holds : bad) :
    Settles world good bad (MonadExcept.throw failure) :=
  Or.inr ⟨failure, rfl, mild, holds⟩

theorem imp {worse : Prop} {action : Run α} (settles : Settles world good bad action)
    (implies : bad → worse) : Settles world good worse action := by
  obtain given | ⟨failure, failed, mild, holds⟩ := settles
  · exact Or.inl given
  · exact Or.inr ⟨failure, failed, mild, implies holds⟩

theorem bind {action : Run α} {next : α → Run β} (head : Settles world good bad action)
    (tail : ∀ value, good value → Settles world better bad (next value)) :
    Settles world better bad (action >>= next) := by
  unfold Settles
  rw [outcome_bind]
  obtain ⟨value, given, holds⟩ | ⟨failure, failed, mild, holds⟩ := head
  · rw [given]
    exact tail value holds
  · rw [failed]
    exact Or.inr ⟨failure, rfl, mild, holds⟩

theorem mapM {each : α → Run β} {fits : α → β → Prop} {items : List α}
    (settles : ∀ item ∈ items, Settles world (fits item) bad (each item)) :
    Settles world (List.Forall₂ fits items) bad (items.mapM each) := by
  induction items with
  | nil =>
      rw [List.mapM_nil]
      exact pure .nil
  | cons item rest ih =>
      rw [List.mapM_cons]
      refine bind (settles item List.mem_cons_self) fun first head => ?_
      refine bind (ih fun item member => settles item (List.mem_cons_of_mem _ member)) ?_
      intro others tail
      exact pure (.cons head tail)

theorem encodeItems {encodeOne : Value → Run Json} {fits : Value → Json → Prop} {address : Address}
    {flavour : SequenceFlavour} {items : List Value}
    (found : world.store[address]? = some (.sequence flavour items))
    (settles : ∀ item ∈ items, Settles world (fits item) bad (encodeOne item)) :
    ∀ bound index, index + bound = items.length →
      Settles world (List.Forall₂ fits (items.drop index)) bad
        (Json.encodeItems encodeOne address bound index) := by
  intro bound
  induction bound with
  | zero =>
      intro index reached
      rw [List.drop_of_length_le (by omega)]
      exact pure .nil
  | succ bound ih =>
      intro index reached
      have inside : index < items.length := by omega
      have looked : (Run.item? address index).outcome world = (.ok (some items[index]), world) := by
        rw [item?, outcome_bind, outcome_node?, found]
        simp [inside]
      have next : Settles world (· = some items[index]) bad (Run.item? address index) :=
        Or.inl ⟨_, looked, rfl⟩
      rw [List.drop_eq_getElem_cons inside]
      refine bind next ?_
      rintro _ rfl
      refine bind (settles _ (List.getElem_mem inside)) fun tree head => ?_
      refine bind (ih (index + 1) (by omega)) fun trees tail => ?_
      exact pure (.cons head tail)

end Run.Settles
end

namespace Value

/-- What the encoding of a value rests on. Its records need a debug text only if JSON has no form for it. -/
structure Encodable (world : World) (trail : List Address) (depth : Nat) (value : Value) : Prop where
  spellable : value.Spellable world.store
  fits : value.Fits world.store trail depth
  distinct : trail.Nodup
  debuggable : ¬value.JsonReady world trail → value.Debuggable world.store

abbrev Encodes (world : World) (trail : List Address) (value : Value) (action : Run Json) : Prop :=
  Settles world (value.Represents world) (¬value.JsonReady world trail) action

section

variable {world : World} {store : Store} {trail : List Address} {address : Address} {node : Node}
variable {value part : Value} {depth : Nat}

theorem Encodable.inside (encodable : (Value.object address).Encodable world trail (depth + 1))
    (found : world.store[address]? = some node) (fresh : address ∉ trail) (member : part ∈ node.jsonParts) :
    part.Encodable world (address :: trail) depth where
  spellable := encodable.spellable.inside found (jsonParts_subset_contents node member)
  fits := encodable.fits.inside found member
  distinct := List.nodup_cons.mpr ⟨fresh, encodable.distinct⟩
  debuggable := fun unready =>
    (encodable.debuggable fun ready => unready (ready.inside found member)).inside found
      (jsonParts_subset_contents node member)

theorem Encodable.display_settles (encodable : value.Encodable world trail depth)
    (foreign : value.isNative = false) (closed : value.isEntered world.store = false) (reentry : Reentry) :
    Settles world (value.Displays world) (¬value.JsonReady world trail) (value.display reentry depth) := by
  have plain := encodable.spellable.template?_eq_none
  have fits := encodable.fits.fitsText encodable.distinct closed
  unfold Settles
  rw [outcome_display plain]
  by_cases shown : ∃ text, value.Displays world text
  · obtain ⟨text, displays⟩ := shown
    exact Or.inl ⟨text, by rw [displays.ownText_eq plain fits], displays⟩
  · have unready : ¬value.JsonReady world trail := fun ready => shown (ready.texts _ _ .here foreign closed)
    have quotable : value.Quotable world.store depth := ⟨fits, encodable.debuggable unready⟩
    obtain ⟨text, written⟩ | ⟨address, record, failure, rfl, found, failed⟩ :=
      quotable.ownText_or_fails encodable.spellable
    · exact absurd ⟨text, displays_of_ownText plain fits written⟩ shown
    · have mild := encodable.spellable.records address record failure .self found failed
      refine Or.inr ⟨failure, ?_, mild, unready⟩
      simp only [ownText, found, failed]

theorem Encodable.ofLeaf_encodes (encodable : value.Encodable world trail depth)
    (closed : value.isEntered world.store = false) (reentry : Reentry) :
    Encodes world trail value (Json.ofLeaf (display reentry) depth value) := by
  have low := encodable.fits.height_le encodable.distinct
  have wrapped (foreign : value.isNative = false) :
      Encodes world trail value (do return .string (← value.display reentry depth)) := by
    refine Settles.bind (encodable.display_settles foreign closed reentry) fun text displays => ?_
    exact Settles.pure (.leaf foreign closed displays)
  cases value with
  | absent => exact Settles.pure .null
  | bool flag => exact Settles.pure (.bool flag)
  | real bits => exact Settles.pure (.real bits)
  | text content => exact Settles.pure (.text content)
  | segments parts =>
      have low : Segment.heightAll parts ≤ depth := low
      simp only [Json.ofLeaf, low, ↓reduceIte]
      exact Settles.pure (.segments parts)
  | diagnostics reports => exact Settles.pure (.diagnostics reports)
  | integer n =>
      have short := encodable.spellable.numbers _ .self n List.mem_cons_self
      simp only [Json.ofLeaf, short, Bool.false_eq_true, ↓reduceIte]
      exact Settles.pure (.integer n)
  | _ => exact wrapped rfl

section

variable {bad : Prop} {encodeOne : Value → Run Json}

theorem encodeArray_settles {flavour : SequenceFlavour} {items : List Value}
    (found : world.store[address]? = some (.sequence flavour items)) (entered : flavour.isArray = true)
    (settles : ∀ item ∈ items, Settles world (item.Represents world) bad (encodeOne item)) :
    Settles world ((Value.object address).Represents world) bad
      (do return .array (← Json.encodeItems encodeOne address items.length 0)) := by
  refine Settles.bind (Settles.encodeItems found settles _ 0 (by simp)) fun trees fitting => ?_
  rw [List.drop_zero, List.forall₂_iff_zip] at fitting
  exact Settles.pure (.array found entered fitting.1 fun _ _ => fitting.2)

theorem encodeEntry_settles {key item : Value} (spellable : key.Spellable world.store)
    (unnamed : key.isFieldName = false → bad)
    (settles : Settles world (item.Represents world) bad (encodeOne item)) :
    Settles world
      (fun field : Text × Json => Json.fieldName world.store key = .ok field.1 ∧
        item.Represents world field.2) bad
      (do
        let name ← Run.ofExcept (Json.fieldName (← Run.store) key)
        let tree ← encodeOne item
        return (name, tree)) := by
  have stored : Settles world (· = world.store) bad Run.store := Or.inl ⟨_, rfl, rfl⟩
  have named : Settles world (fun name => Json.fieldName world.store key = .ok name) bad
      (Run.ofExcept (Json.fieldName world.store key)) := by
    cases key with
    | text content => exact Settles.pure rfl
    | real bits => exact Settles.pure rfl
    | bool flag => exact Settles.pure rfl
    | absent => exact Settles.pure rfl
    | integer n =>
        have written : Json.fieldName world.store (.integer n) = .ok (Numeral.ofInt n) :=
          integerText_of_short (spellable.numbers _ .self n List.mem_cons_self)
        rw [written]
        exact Settles.pure rfl
    | _ => exact Settles.throw rfl (unnamed rfl)
  refine Settles.bind stored ?_
  rintro _ rfl
  refine Settles.bind named fun name given => ?_
  refine Settles.bind settles fun tree represents => ?_
  exact Settles.pure ⟨given, represents⟩

theorem encodeFields_settles {flavour : MappingFlavour} {entries : List (Value × Value)}
    (found : world.store[address]? = some (.mapping flavour entries))
    (entered : flavour.isJsonObject = true)
    (spellable : ∀ entry ∈ entries, entry.1.Spellable world.store)
    (unnamed : ∀ entry ∈ entries, entry.1.isFieldName = false → bad)
    (settles : ∀ entry ∈ entries, Settles world (entry.2.Represents world) bad (encodeOne entry.2)) :
    Settles world ((Value.object address).Represents world) bad
      (do
        let fields ← entries.mapM fun (key, item) => do
          let name ← Run.ofExcept (Json.fieldName (← Run.store) key)
          let tree ← encodeOne item
          return (name, tree)
        return .object fields) := by
  have each := Settles.mapM fun entry member =>
    encodeEntry_settles (spellable entry member) (unnamed entry member) (settles entry member)
  refine Settles.bind each fun fields fitting => ?_
  rw [List.forall₂_iff_zip] at fitting
  exact Settles.pure (.object found entered fitting.1 (fun _ _ member => (fitting.2 member).1)
    fun _ _ member => (fitting.2 member).2)

end

theorem not_ready_of_mem (again : address ∈ trail) : ¬(Value.object address).JsonReady world trail :=
  fun ready => ready.uncircular trail address .here again

theorem Encodable.encodeSequence_encodes {flavour : SequenceFlavour} {items : List Value} {reentry : Reentry}
    {encodeOne : Value → Run Json} (encodable : (Value.object address).Encodable world trail depth)
    (found : world.store[address]? = some (.sequence flavour items))
    (further : address ∉ trail → ∀ part ∈ (Node.sequence flavour items).jsonParts,
      Settles world (part.Represents world) (¬(Value.object address).JsonReady world trail)
        (encodeOne part)) :
    Encodes world trail (.object address)
      (if !flavour.isArray then Json.ofLeaf (display reentry) depth (.object address)
      else if items.isEmpty then return .array []
      else if trail.contains address then throw .circular
      else do return .array (← Json.encodeItems encodeOne address items.length 0)) := by
  cases entered : flavour.isArray with
  | false =>
      exact encodable.ofLeaf_encodes (by simp [isEntered, found, Node.isEntered, entered]) reentry
  | true =>
      simp only [Bool.not_true, Bool.false_eq_true, ↓reduceIte]
      split
      · rename_i empty
        rw [List.isEmpty_iff.mp empty] at found
        exact Settles.pure (.array found entered rfl (by simp))
      split
      · rename_i circular
        exact Settles.throw rfl (not_ready_of_mem (by simpa using circular))
      · rename_i fresh
        refine encodeArray_settles found entered fun item member => ?_
        refine further (by simpa using fresh) item ?_
        simpa [Node.jsonParts, Node.isEntered, entered] using member

theorem Encodable.encodeMapping_encodes {flavour : MappingFlavour} {entries : List (Value × Value)}
    {reentry : Reentry} {encodeOne : Value → Run Json}
    (encodable : (Value.object address).Encodable world trail depth)
    (found : world.store[address]? = some (.mapping flavour entries))
    (further : address ∉ trail → ∀ part ∈ (Node.mapping flavour entries).jsonParts,
      Settles world (part.Represents world) (¬(Value.object address).JsonReady world trail)
        (encodeOne part)) :
    Encodes world trail (.object address)
      (if !flavour.isJsonObject then Json.ofLeaf (display reentry) depth (.object address)
      else if trail.contains address then throw .circular
      else do
        let fields ← entries.mapM fun (key, item) => do
          let name ← Run.ofExcept (Json.fieldName (← Run.store) key)
          let tree ← encodeOne item
          return (name, tree)
        return .object fields) := by
  cases entered : flavour.isJsonObject with
  | false =>
      exact encodable.ofLeaf_encodes (by simp [isEntered, found, Node.isEntered, entered]) reentry
  | true =>
      have keyed {entry : Value × Value} (member : entry ∈ entries) :
          entry.1 ∈ (Node.mapping flavour entries).jsonKeys := by
        simpa [Node.jsonKeys, Node.isEntered, entered] using ⟨entry.2, member⟩
      simp only [Bool.not_true, Bool.false_eq_true, ↓reduceIte]
      split
      · rename_i circular
        exact Settles.throw rfl (not_ready_of_mem (by simpa using circular))
      · rename_i fresh
        refine encodeFields_settles found entered ?_ ?_ ?_
        · intro entry member
          exact encodable.spellable.inside found (List.mem_flatMap.mpr ⟨entry, member, List.mem_cons_self⟩)
        · intro entry member unnamed ready
          have named := ready.names trail address _ entry.1 .here found (keyed member)
          rw [unnamed] at named
          cases named
        · intro entry member
          refine further (by simpa using fresh) entry.2 ?_
          simpa [Node.jsonParts, Node.isEntered, entered] using ⟨entry.1, member⟩

theorem Encodable.encodeFrom_encodes (reentry : Reentry) : ∀ {depth trail value},
    value.Encodable world trail depth →
      Encodes world trail value (Json.encodeFrom (display reentry) depth trail value) := by
  intro depth
  induction depth with
  | zero =>
      intro trail value encodable
      cases value with
      | object => exact absurd (encodable.fits.height_le encodable.distinct) (by simp [height])
      | _ =>
          rw [Json.encodeFrom_immediate _ _ _ rfl]
          exact encodable.ofLeaf_encodes rfl reentry
  | succ depth ih =>
      intro trail value encodable
      cases value with
      | object address =>
          have further {node : Node} (found : world.store[address]? = some node)
              (fresh : address ∉ trail) (part : Value) (member : part ∈ node.jsonParts) :
              Settles world (part.Represents world) (¬(Value.object address).JsonReady world trail)
                (Json.encodeFrom (display reentry) depth (address :: trail) part) :=
            (ih (encodable.inside found fresh member)).imp fun unready ready =>
              unready (ready.inside found member)
          have looked : Settles world (· = world.store[address]?)
              (¬(Value.object address).JsonReady world trail) (Run.node? address) :=
            Or.inl ⟨_, outcome_node? address world, rfl⟩
          refine Settles.bind looked ?_
          rintro _ rfl
          cases found : world.store[address]? with
          | none => exact encodable.ofLeaf_encodes (by simp [isEntered, found]) reentry
          | some node =>
              cases node with
              | sequence flavour items => exact encodable.encodeSequence_encodes found (further found)
              | mapping flavour entries => exact encodable.encodeMapping_encodes found (further found)
              | _ =>
                  exact encodable.ofLeaf_encodes (by simp [isEntered, found, Node.isEntered]) reentry
      | _ =>
          rw [Json.encodeFrom_immediate _ _ _ rfl]
          exact encodable.ofLeaf_encodes rfl reentry

end
end Value
end Stencil
