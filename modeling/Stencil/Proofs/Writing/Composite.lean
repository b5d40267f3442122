import Mathlib.Data.List.Perm.Subperm
import Stencil.Proofs.Writing.Encoding
import Stencil.Template

/-! Coercion of composites never breaks off. A mapping or a sequence whose parts can be spelled is written as
JSON exactly when it has a JSON tree, and by its own text otherwise. -/

namespace Stencil

open Run

namespace Value

section

variable {world : World} {value : Value}

/-- The text of a composite: its JSON if it has any, and its own text otherwise. -/
inductive WrittenAs (world : World) (value : Value) : Text → Prop
  | json {tree} : value.JsonReady world [] → value.Represents world tree →
      WrittenAs world value tree.write
  | own {text} : ¬value.JsonReady world [] → (∀ tree, ¬value.Represents world tree) →
      value.Displays world text → WrittenAs world value text

theorem WrittenAs.unique {first second : Text} (one : value.WrittenAs world first)
    (other : value.WrittenAs world second) : second = first := by
  cases one with
  | json ready represents =>
      cases other with
      | json _ represents' => rw [represents.unique _ represents']
      | own unready => exact absurd ready unready
  | own unready _ displays =>
      cases other with
      | json ready => exact absurd ready unready
      | own _ _ displays' => exact displays'.unique displays

/-- What the writing of a composite rests on: only if JSON has no form for it, its own text is needed. -/
structure Writable (world : World) (value : Value) : Prop where
  spellable : value.Spellable world.store
  fits : value.Fits world.store [] world.limit
  quotable : ¬value.JsonReady world [] → value.Quotable world.store world.limit

theorem Writable.encodable (writable : value.Writable world) : value.Encodable world [] world.limit where
  spellable := writable.spellable
  fits := writable.fits
  distinct := List.nodup_nil
  debuggable := fun unready => (writable.quotable unready).debuggable

theorem Quotable.exists_ownText_of_composite {depth : Nat} (quotable : value.Quotable world.store depth)
    (spellable : value.Spellable world.store)
    (composite : value.kind world.store ∈ [Kind.mapping, .sequence]) :
    ∃ text, value.ownText world.store depth = .ok text := by
  obtain given | ⟨address, record, failure, rfl, found, _⟩ := quotable.ownText_or_fails spellable
  · exact given
  · simp [kind, found, Node.kind] at composite

theorem outcome_compositeText (writable : value.Writable world)
    (composite : value.kind world.store ∈ [Kind.mapping, .sequence]) (reentry : Reentry) :
    ∃ text, value.WrittenAs world text ∧
      (value.compositeText reentry world.limit).outcome world = (.ok text, world) := by
  have encoded : Encodes world [] value (Json.encode (display reentry) world.limit value) :=
    writable.encodable.encodeFrom_encodes reentry
  rw [compositeText, outcome_tryCatch, outcome_bind]
  obtain ⟨tree, given, represents⟩ | ⟨failure, failed, mild, unready⟩ := encoded
  · rw [given]
    exact ⟨tree.write, .json represents.jsonReady represents, rfl⟩
  · have plain := writable.spellable.template?_eq_none
    have quotable := writable.quotable unready
    obtain ⟨text, written⟩ := quotable.exists_ownText_of_composite writable.spellable composite
    rw [failed]
    dsimp only
    rw [mild, if_pos rfl, outcome_display plain, written]
    exact ⟨text, .own unready (fun tree represents => unready represents.jsonReady)
      (displays_of_ownText plain quotable.fits written), rfl⟩

theorem outcome_coerce_of_composite (composite : value.kind world.store ∈ [Kind.mapping, .sequence])
    (reentry : Reentry) :
    (value.coerce reentry).outcome world = (value.compositeText reentry world.limit).outcome world := by
  unfold coerce
  split
  · simp [kind] at composite
  · simp [kind] at composite
  · simp [kind] at composite
  · simp [kind] at composite
  · rw [outcome_bind, outcome_world]
    simp only [List.mem_cons, List.not_mem_nil, or_false] at composite
    rcases composite with mapping | sequence
    · simp only [mapping]
    · simp only [sequence]

theorem length_le_of_nodup {trail : List Address} {count : Nat} (distinct : trail.Nodup)
    (bounded : ∀ address ∈ trail, address < count) : trail.length ≤ count := by
  have within : trail ⊆ List.range count := fun address member => List.mem_range.mpr (bounded address member)
  simpa using (List.subperm_of_subset distinct within).length_le

theorem Meets.contains {trail : List Address} {part : Value} (meets : value.Meets world.store [] trail part) :
    value.Contains world.store part ∧ ∀ address ∈ trail, address < world.store.size := by
  induction meets with
  | here => exact ⟨.self, by simp⟩
  | part _ found member ih =>
      refine ⟨.part ih.1 found (jsonParts_subset_contents _ member), ?_⟩
      rintro other (_ | ⟨_, held⟩)
      · exact (Array.getElem?_eq_some_iff.mp found).1
      · exact ih.2 other held

theorem Shows.contains {trail : List Address} {part : Value} (shows : value.Shows world.store [] trail part)
    (marked : ∀ address node, value.Contains world.store (.object address) →
      world.store[address]? = some node → node.contents ≠ [] → cycleMark? node ≠ none) :
    value.Contains world.store part ∧ trail.Nodup ∧ ∀ address ∈ trail, address < world.store.size := by
  induction shows with
  | here => exact ⟨.self, List.nodup_nil, by simp⟩
  | @part trail address node _ _ found opens member ih =>
      have fresh : address ∉ trail :=
        opens.resolve_left (marked address node ih.1 found (List.ne_nil_of_mem member))
      refine ⟨.part ih.1 found member, List.nodup_cons.mpr ⟨fresh, ih.2.1⟩, ?_⟩
      rintro other (_ | ⟨_, held⟩)
      · exact (Array.getElem?_eq_some_iff.mp found).1
      · exact ih.2.2 other held

/-- A value in a store of fewer objects than half the limit, each with a mark if it holds anything. -/
structure Small (world : World) (value : Value) : Prop where
  marked : ∀ address node, value.Contains world.store (.object address) →
    world.store[address]? = some node → node.contents ≠ [] → cycleMark? node ≠ none
  flat : ∀ part, value.Contains world.store part → part.height ≤ 1
  few : 2 * world.store.size < world.limit

theorem Small.fitsText (small : value.Small world) : value.FitsText world.store [] world.limit := by
  intro trail part shows
  have within := shows.contains small.marked
  have short := length_le_of_nodup within.2.1 within.2.2
  have low := small.flat part within.1
  have few := small.few
  rw [List.length_nil]
  omega

theorem Small.fits (small : value.Small world) : value.Fits world.store [] world.limit := by
  have few := small.few
  constructor
  · intro trail part meets distinct
    have short := length_le_of_nodup distinct meets.contains.2
    have low := small.flat part meets.contains.1
    rw [List.length_nil]
    omega
  · intro trail part meets distinct _ inner shown shows
    have short := length_le_of_nodup distinct meets.contains.2
    have around {other : Value} (contains : part.Contains world.store other) :
        value.Contains world.store other := meets.contains.1.trans contains
    have within := shows.contains fun address node contains => small.marked address node (around contains)
    have short' := length_le_of_nodup within.2.1 within.2.2
    have low := small.flat shown (around within.1)
    rw [List.length_nil]
    omega

theorem Small.writable (small : value.Small world) (spellable : value.Spellable world.store)
    (debuggable : value.Debuggable world.store) : value.Writable world where
  spellable := spellable
  fits := small.fits
  quotable := fun _ => ⟨small.fitsText, debuggable⟩

/-- Lists and mappings of one item each, every one but the lowest inside the next. -/
structure Tower (store : Store) (top : Nat) : Prop where
  lowest : store[0]? = some (.sequence .list [])
  climbs : ∀ level < top, store[level + 1]? = some (.sequence .list [.object level]) ∨
    ∃ name, store[level + 1]? = some (.mapping .plain [(.text name, .object level)])

section

variable {top : Nat}

theorem Tower.encodeFrom_fails (tower : Tower world.store top) (display : Nat → Value → Run Text) :
    ∀ depth level entered, depth ≤ level → level ≤ top → (∀ outer ∈ entered, level < outer) →
      (Json.encodeFrom display depth entered (.object level)).outcome world =
        (.error .encodingTooDeep, world) := by
  intro depth
  induction depth with
  | zero =>
      intro level entered _ _ _
      rfl
  | succ depth ih =>
      intro level entered deep inside outside
      obtain ⟨level, rfl⟩ := Nat.exists_eq_add_one_of_ne_zero (by omega : level ≠ 0)
      have fresh : entered.contains (level + 1) = false := by
        simpa using fun held => Nat.lt_irrefl _ (outside _ held)
      have below := ih level ((level + 1) :: entered) (by omega) (by omega) (by
        rintro outer (_ | ⟨_, held⟩)
        · exact Nat.lt_succ_self level
        · exact Nat.lt_of_succ_lt (outside outer held))
      rw [Json.encodeFrom, outcome_bind, outcome_node?]
      obtain found | ⟨name, found⟩ := tower.climbs level (by omega)
      · simp only [found, SequenceFlavour.isArray, fresh]
        have item : (Run.item? (level + 1) 0).outcome world = (.ok (some (.object level)), world) := by
          rw [Run.item?, outcome_bind, outcome_node?, found]
          rfl
        simp only [Bool.not_true, Bool.false_eq_true, ↓reduceIte, List.isEmpty_cons, List.length_singleton,
          Json.encodeItems, outcome_bind, item, below]
      · simp only [found, MappingFlavour.isJsonObject, fresh]
        have named : (Run.ofExcept (Json.fieldName world.store (.text name))).outcome world =
            (.ok name, world) := rfl
        simp only [Bool.not_true, Bool.false_eq_true, ↓reduceIte, List.mapM_cons, outcome_bind, outcome_store,
          named, below]

theorem Tower.kind_mem (tower : Tower world.store top) :
    (Value.object top).kind world.store ∈ [Kind.mapping, .sequence] := by
  cases top with
  | zero => simp [kind, tower.lowest, Node.kind]
  | succ level =>
      obtain found | ⟨name, found⟩ := tower.climbs level (Nat.lt_succ_self level) <;>
        simp [kind, found, Node.kind]

theorem Tower.outcome_coerce (tower : Tower world.store top) (high : world.limit ≤ top) (reentry : Reentry) :
    ((Value.object top).coerce reentry).outcome world = (.error .encodingTooDeep, world) := by
  have failed := tower.encodeFrom_fails (Value.display reentry) world.limit top [] high (Nat.le_refl top)
    (by simp)
  rw [outcome_coerce_of_composite tower.kind_mem, compositeText, outcome_tryCatch, outcome_bind, Json.encode,
    failed]
  rfl

def Tower.Below (top : Nat) (part : Value) : Prop :=
  part.numbers = [] ∧ ∀ level, part = .object level → level ≤ top

theorem Tower.contents_below (tower : Tower world.store top) {level : Nat} {node : Node} (low : level ≤ top)
    (found : world.store[level]? = some node) :
    node.kind ≠ .record ∧ ∀ part ∈ node.contents, Tower.Below top part := by
  cases level with
  | zero =>
      rw [tower.lowest] at found
      cases found
      exact ⟨nofun, nofun⟩
  | succ level =>
      have lower : Tower.Below top (.object level) :=
        ⟨rfl, fun _ same => Value.object.inj same ▸ Nat.le_of_succ_le low⟩
      obtain there | ⟨name, there⟩ := tower.climbs level low
      · rw [there] at found
        cases found
        exact ⟨nofun, by simpa [Node.contents] using lower⟩
      · rw [there] at found
        cases found
        exact ⟨nofun, by simpa [Node.contents] using ⟨⟨rfl, nofun⟩, lower⟩⟩

theorem Tower.spellable (tower : Tower world.store top) :
    (Value.object top).Spellable world.store := by
  have inside {part : Value} (contains : (Value.object top).Contains world.store part) :
      Tower.Below top part := by
    induction contains with
    | self => exact ⟨rfl, fun _ same => Nat.le_of_eq (Value.object.inj same).symm⟩
    | part _ found member ih => exact (tower.contents_below (ih.2 _ rfl) found).2 _ member
  have plain {address : Address} {node : Node}
      (contains : (Value.object top).Contains world.store (.object address))
      (found : world.store[address]? = some node) : node.kind ≠ .record :=
    (tower.contents_below ((inside contains).2 _ rfl) found).1
  constructor
  · intro part contains
    simp [(inside contains).1]
  · exact fun address template contains found => plain contains found rfl
  · exact fun address record failure contains found => absurd rfl (plain contains found)

end

def towerOf (wrap : Value → Node) (top : Nat) : Store :=
  ((List.range (top + 1)).map fun level =>
    if level = 0 then .sequence .list [] else wrap (.object (level - 1))).toArray

theorem getElem?_towerOf (wrap : Value → Node) {top level : Nat} (low : level < top) :
    (towerOf wrap top)[level + 1]? = some (wrap (.object level)) := by
  simp [towerOf, low]

end
end Value
end Stencil
