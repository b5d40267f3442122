import Stencil.Proofs.Numerals
import Stencil.Proofs.Writing.Composite
import Stencil.Proofs.Writing.Printing

/-! The text of a composite that holds nothing but data says those data. What can be told from the text is
all but the flavours of the containers. -/

namespace Stencil

open Run

namespace Datum

mutual

def nesting : Datum → Nat
  | .array items => nestingAll items + 1
  | .object fields => nestingFields fields + 1
  | _ => 0

def nestingAll : List Datum → Nat
  | [] => 0
  | datum :: rest => max datum.nesting (nestingAll rest)

def nestingFields : List (Text × Datum) → Nat
  | [] => 0
  | (_, datum) :: rest => max datum.nesting (nestingFields rest)

end

theorem nesting_le_nestingAll {datum : Datum} {items : List Datum} (member : datum ∈ items) :
    datum.nesting ≤ nestingAll items := by
  induction member with
  | head => exact Nat.le_max_left _ _
  | tail _ _ ih => exact Nat.le_trans ih (Nat.le_max_right _ _)

theorem nesting_le_nestingFields {name : Text} {datum : Datum} {fields : List (Text × Datum)}
    (member : (name, datum) ∈ fields) : datum.nesting ≤ nestingFields fields := by
  induction fields with
  | nil => cases member
  | cons field rest ih =>
      rcases List.mem_cons.mp member with rfl | member
      · exact Nat.le_max_left _ _
      · exact Nat.le_trans (ih member) (Nat.le_max_right _ _)

end Datum

namespace Value

/-- The data of a value, in which containers have lost their flavour. -/
inductive Unfolds (store : Store) : Value → Datum → Prop
  | absent : Unfolds store .absent .null
  | bool (flag : Bool) : Unfolds store (.bool flag) (.bool flag)
  | integer {n : Int} : n.natAbs < 10 ^ Numeral.digitLimit → Unfolds store (.integer n) (.integer n)
  | text (content : Text) : Unfolds store (.text content) (.string content)
  | array {address flavour items data} : store[address]? = some (.sequence flavour items) →
      flavour.isArray = true → items.length = data.length →
      (∀ item datum, (item, datum) ∈ items.zip data → Unfolds store item datum) →
      Unfolds store (.object address) (.array data)
  | object {address flavour entries fields} : store[address]? = some (.mapping flavour entries) →
      flavour.isJsonObject = true → entries.length = fields.length →
      (∀ entry field, (entry, field) ∈ entries.zip fields → entry.1 = .text field.1) →
      (∀ entry field, (entry, field) ∈ entries.zip fields → Unfolds store entry.2 field.2) →
      Unfolds store (.object address) (.object fields)

section

variable {world : World} {store : Store} {address : Address} {node : Node} {value part : Value}
variable {datum : Datum}

theorem Unfolds.inside (unfolds : (Value.object address).Unfolds store datum)
    (found : store[address]? = some node) (member : part ∈ node.contents) :
    ∃ inner, part.Unfolds store inner ∧ inner.nesting < datum.nesting := by
  cases unfolds with
  | @array _ flavour items data found' _ same each =>
      rw [found'] at found
      cases found
      obtain ⟨inner, held, beside⟩ := exists_mem_zip same member
      exact ⟨inner, each _ _ beside, Nat.lt_succ_of_le (Datum.nesting_le_nestingAll held)⟩
  | @object _ flavour entries fields found' _ same named each =>
      rw [found'] at found
      cases found
      obtain ⟨entry, held, inEntry⟩ := List.mem_flatMap.mp member
      obtain ⟨⟨name, inner⟩, held', beside⟩ := exists_mem_zip same held
      simp only [List.mem_cons, List.not_mem_nil, or_false] at inEntry
      rcases inEntry with rfl | rfl
      · exact ⟨.string name, named _ _ beside ▸ .text name, Nat.succ_pos _⟩
      · exact ⟨inner, each _ _ beside, Nat.lt_succ_of_le (Datum.nesting_le_nestingFields held')⟩

theorem Unfolds.of_contains (unfolds : value.Unfolds store datum) (contains : value.Contains store part) :
    ∃ inner, part.Unfolds store inner := by
  induction contains with
  | self => exact ⟨datum, unfolds⟩
  | part _ found member ih =>
      obtain ⟨around, unfolds⟩ := ih
      obtain ⟨inner, unfolds, _⟩ := unfolds.inside found member
      exact ⟨inner, unfolds⟩

theorem Unfolds.spellable (unfolds : value.Unfolds store datum) : value.Spellable store := by
  constructor
  · intro part contains n member
    obtain ⟨inner, unfolds⟩ := unfolds.of_contains contains
    cases unfolds with
    | integer short =>
        cases List.mem_singleton.mp member
        exact (Numeral.exceedsLimit_eq_false_iff _).mpr short
    | _ => cases member
  · intro address template contains found
    obtain ⟨inner, unfolds⟩ := unfolds.of_contains contains
    cases unfolds with
    | array found' => simp [found'] at found
    | object found' => simp [found'] at found
  · intro address record failure contains found
    obtain ⟨inner, unfolds⟩ := unfolds.of_contains contains
    cases unfolds with
    | array found' => simp [found'] at found
    | object found' => simp [found'] at found

theorem Unfolds.of_meets {trail : List Address} (unfolds : value.Unfolds store datum)
    (meets : value.Meets store [] trail part) :
    ∃ inner, part.Unfolds store inner ∧ trail.length + inner.nesting ≤ datum.nesting := by
  induction meets with
  | here => exact ⟨datum, unfolds, by simp⟩
  | part _ found member ih =>
      obtain ⟨around, unfolds, bound⟩ := ih
      obtain ⟨inner, unfolds, less⟩ := unfolds.inside found (jsonParts_subset_contents _ member)
      refine ⟨inner, unfolds, ?_⟩
      rw [List.length_cons]
      omega

theorem Unfolds.height_le_nesting (unfolds : value.Unfolds store datum) : value.height ≤ datum.nesting := by
  cases unfolds with
  | array | object => exact Nat.le_add_left 1 _
  | _ => exact Nat.zero_le _

theorem Unfolds.isObject_eq_false (unfolds : value.Unfolds store datum)
    (closed : value.isEntered store = false) : value.isObject = false := by
  cases unfolds with
  | array found entered => simp [isEntered, found, Node.isEntered, entered] at closed
  | object found entered => simp [isEntered, found, Node.isEntered, entered] at closed
  | _ => rfl

theorem Shows.eq_self {trail : List Address} (shows : value.Shows store [] trail part)
    (plain : value.isObject = false) : trail = [] ∧ part = value := by
  induction shows with
  | here => exact ⟨rfl, rfl⟩
  | part _ _ _ _ ih =>
      rw [← ih.2] at plain
      cases plain

theorem Unfolds.fits (unfolds : value.Unfolds store datum) {depth : Nat}
    (shallow : datum.nesting ≤ depth) : value.Fits store [] depth where
  entered := by
    intro trail part meets _
    obtain ⟨inner, unfolds, bound⟩ := unfolds.of_meets meets
    have low := unfolds.height_le_nesting
    rw [List.length_nil]
    omega
  texts := by
    intro trail part meets _ closed innermost shown shows
    obtain ⟨inner, unfolds, bound⟩ := unfolds.of_meets meets
    obtain ⟨rfl, rfl⟩ := shows.eq_self (unfolds.isObject_eq_false closed)
    have low := unfolds.height_le_nesting
    rw [List.length_nil]
    omega

theorem exists_forall₂_between {α β γ : Type} {relates : α → β → Prop} {relates' : β → γ → Prop}
    {firsts : List α} {lasts : List γ}
    (between : List.Forall₂ (fun first last => ∃ middle, relates first middle ∧ relates' middle last)
      firsts lasts) :
    ∃ middles, List.Forall₂ relates firsts middles ∧ List.Forall₂ relates' middles lasts := by
  induction between with
  | nil => exact ⟨[], .nil, .nil⟩
  | cons head _ ih =>
      obtain ⟨middle, before, after⟩ := head
      obtain ⟨middles, befores, afters⟩ := ih
      exact ⟨middle :: middles, .cons before befores, .cons after afters⟩

theorem Unfolds.exists_tree (unfolds : value.Unfolds world.store datum) :
    ∃ tree, value.Represents world tree ∧ Datum.Prints tree.write datum := by
  induction unfolds with
  | absent => exact ⟨.null, .null, Datum.prints_null⟩
  | bool flag => exact ⟨.bool flag, .bool flag, Datum.prints_bool flag⟩
  | @integer n _ => exact ⟨.integer n, .integer n, Datum.prints_integer n⟩
  | text content => exact ⟨.string content, .text content, Datum.prints_string content⟩
  | array found entered same _ ih =>
      have each := List.forall₂_iff_zip.mpr ⟨same, fun {item datum} => ih item datum⟩
      obtain ⟨trees, represents, prints⟩ := exists_forall₂_between each
      rw [List.forall₂_iff_zip] at represents
      exact ⟨.array trees, .array found entered represents.1 fun _ _ => represents.2,
        Datum.prints_array prints⟩
  | @object address flavour entries fields found entered same named _ ih =>
      have each : List.Forall₂ (fun entry field => ∃ tree : Text × Json,
          (Json.fieldName world.store entry.1 = .ok tree.1 ∧ entry.2.Represents world tree.2) ∧
            tree.1 = field.1 ∧ Datum.Prints tree.2.write field.2) entries fields := by
        refine List.forall₂_iff_zip.mpr ⟨same, fun {entry field} member => ?_⟩
        obtain ⟨tree, represents, prints⟩ := ih entry field member
        refine ⟨(field.1, tree), ⟨?_, represents⟩, rfl, prints⟩
        rw [named entry field member]
        rfl
      obtain ⟨trees, represents, prints⟩ := exists_forall₂_between each
      rw [List.forall₂_iff_zip] at represents
      obtain ⟨same', each'⟩ := represents
      exact ⟨.object trees, .object found entered same' (fun _ _ member => (each' member).1)
        fun _ _ member => (each' member).2, Datum.prints_object prints⟩

theorem Unfolds.writable (unfolds : value.Unfolds world.store datum)
    (shallow : datum.nesting ≤ world.limit) : value.Writable world where
  spellable := unfolds.spellable
  fits := unfolds.fits shallow
  quotable := fun unready => by
    obtain ⟨tree, represents, _⟩ := unfolds.exists_tree
    exact absurd represents.jsonReady unready

theorem Unfolds.coerced (unfolds : value.Unfolds world.store datum)
    (shallow : datum.nesting ≤ world.limit)
    (composite : value.kind world.store ∈ [Kind.mapping, .sequence]) (reentry : Reentry) :
    ∃ text, (value.coerce reentry).outcome world = (.ok text, world) ∧ Datum.Prints text datum := by
  obtain ⟨tree, represents, prints⟩ := unfolds.exists_tree
  obtain ⟨text, written, coerced⟩ := outcome_compositeText (unfolds.writable shallow) composite reentry
  rw [← outcome_coerce_of_composite composite reentry] at coerced
  cases written with
  | json _ represents' =>
      rw [represents.unique _ represents'] at coerced
      exact ⟨tree.write, coerced, prints⟩
  | own unready => exact absurd represents.jsonReady unready

/-- A composite of nothing but data, nested no deeper than the limit, is coerced to a JSON text in visible
characters that says those data, and no others. So whatever else is coerced to the same text differs from it
in the flavours of containers only. -/
theorem coerced_text_decodes (unfolds : value.Unfolds world.store datum)
    (shallow : datum.nesting ≤ world.limit)
    (composite : value.kind world.store ∈ [Kind.mapping, .sequence]) (reentry : Reentry) :
    ∃ text, (value.coerce reentry).outcome world = (.ok text, world) ∧ Datum.IsVisible text ∧
      datum.IsSaidBy text ∧ Datum.read text = some datum ∧
      (∀ other : Datum, other.IsSaidBy text → other = datum) ∧
      ∀ (scene : World) (other : Value) (data : Datum) (reentry' : Reentry),
        other.Unfolds scene.store data → data.nesting ≤ scene.limit →
        other.kind scene.store ∈ [Kind.mapping, .sequence] →
        (other.coerce reentry').outcome scene = (.ok text, scene) → data = datum := by
  obtain ⟨text, coerced, prints⟩ := unfolds.coerced shallow composite reentry
  have said := prints.isSaidBy
  refine ⟨text, coerced, prints.visible, said, said.read_eq, fun other => said.unique, ?_⟩
  intro scene other data reentry' unfolds' shallow' composite' same
  obtain ⟨text', coerced', prints'⟩ := unfolds'.coerced shallow' composite' reentry'
  rw [same] at coerced'
  cases coerced'
  exact said.unique prints'.isSaidBy

def parcel : World :=
  { World.empty with
    store :=
      #[.sequence (.named ['P'] [['x']]) [.text [Char.ofNat 0x1f600, ']'], .integer (-7), .absent],
        .mapping (.defaulting ['f']) [(.text ['"', '\n'], .object 0)]] }

def parcelTree : Json :=
  .object [(['"', '\n'], .array [.string [Char.ofNat 0x1f600, ']'], .integer (-7), .null])]

def parcelData : Datum :=
  .object [(['"', '\n'], .array [.string [Char.ofNat 0x1f600, ']'], .integer (-7), .null])]

theorem parcel_unfolds : (Value.object 1).Unfolds parcel.store parcelData := by
  refine .object rfl rfl rfl (by simp) ?_
  rintro entry field (_ | ⟨_, ⟨⟩⟩)
  refine .array rfl rfl rfl ?_
  rintro item datum (_ | ⟨_, _ | ⟨_, _ | ⟨_, ⟨⟩⟩⟩⟩)
  · exact .text _
  · exact .integer (Nat.lt_of_lt_of_le (by decide) (Nat.le_self_pow (by decide) 10))
  · exact .absent

theorem parcel_decodes :
    (Value.object 1).Unfolds parcel.store parcelData ∧ parcelData.nesting ≤ parcel.limit ∧
      (Value.object 1).kind parcel.store ∈ [Kind.mapping, .sequence] ∧
      ∃ text, text = "\x7b\"\\\"\\n\": [\"\\ud83d\\ude00]\", -7, null]\x7d".toList ∧
        ((Value.object 1).coerce (.ofDepth 1)).outcome parcel = (.ok text, parcel) ∧
        Datum.read text = some parcelData := by
  have coerced : ((Value.object 1).coerce (.ofDepth 1)).outcome parcel = (.ok parcelTree.write, parcel) := by
    rfl
  have written : parcelTree.write = "\x7b\"\\\"\\n\": [\"\\ud83d\\ude00]\", -7, null]\x7d".toList := by
    decide +kernel
  have shallow : parcelData.nesting ≤ parcel.limit := by decide
  obtain ⟨text, same, _, _, decoded, _⟩ :=
    coerced_text_decodes parcel_unfolds shallow (by decide) (.ofDepth 1)
  rw [coerced] at same
  cases same
  exact ⟨parcel_unfolds, shallow, by decide, _, written, coerced, decoded⟩

def towerOfMappings (top : Nat) : Store :=
  towerOf (fun inner => .mapping .plain [(.text ['a'], inner)]) top

theorem tower_of_mappings (top : Nat) : Tower (towerOfMappings top) top where
  lowest := by simp [towerOfMappings, towerOf]
  climbs := fun _ low => Or.inr ⟨['a'], getElem?_towerOf _ low⟩

theorem exists_unfolds_tower (top : Nat) :
    ∀ level ≤ top, ∃ datum, (Value.object level).Unfolds (towerOfMappings top) datum := by
  intro level
  induction level with
  | zero => exact fun _ => ⟨.array [], .array (tower_of_mappings top).lowest rfl rfl nofun⟩
  | succ level ih =>
      intro low
      obtain ⟨inner, unfolds⟩ := ih (Nat.le_of_succ_le low)
      refine ⟨.object [(['a'], inner)], .object (getElem?_towerOf _ low) rfl rfl ?_ ?_⟩
      · rintro entry field (_ | ⟨_, ⟨⟩⟩)
        rfl
      · rintro entry field (_ | ⟨_, ⟨⟩⟩)
        exact unfolds

def nestedMappings : World :=
  { World.empty with store := towerOfMappings 1000 }

/-- Data that are nested too deep are not coerced. -/
theorem nested_data_break_off :
    (∃ datum, (Value.object 1000).Unfolds nestedMappings.store datum) ∧
      (Value.object 1000).kind nestedMappings.store ∈ [Kind.mapping, .sequence] ∧
      ∀ reentry, ((Value.object 1000).coerce reentry).outcome nestedMappings =
        (.error .encodingTooDeep, nestedMappings) := by
  have tower : Tower nestedMappings.store 1000 := tower_of_mappings 1000
  exact ⟨exists_unfolds_tower 1000 1000 (Nat.le_refl 1000), tower.kind_mem,
    tower.outcome_coerce (Nat.le_refl 1000)⟩

end
end Value
end Stencil
