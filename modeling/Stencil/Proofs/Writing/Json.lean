import Mathlib.Data.List.Zip
import Stencil.Proofs.Writing.Texts

/-! The JSON of values, and which values have one. Lists, tuples and mappings that can change are entered,
and all else is a leaf. JSON fails on a container inside itself, on a key that is no name and on a leaf
without a text; whatever can be spelled is then written by its own text. -/

namespace Stencil

open Run

namespace Node

def isEntered : Node → Bool
  | .sequence flavour _ => flavour.isArray
  | .mapping flavour _ => flavour.isJsonObject
  | _ => false

def jsonParts (node : Node) : List Value :=
  match node with
  | .sequence _ items => if node.isEntered then items else []
  | .mapping _ entries => if node.isEntered then entries.map Prod.snd else []
  | _ => []

def jsonKeys (node : Node) : List Value :=
  match node with
  | .mapping _ entries => if node.isEntered then entries.map Prod.fst else []
  | _ => []

end Node

namespace Value

def isEntered (store : Store) : Value → Bool
  | .object address => store[address]?.any Node.isEntered
  | _ => false

def isNative : Value → Bool
  | .absent | .bool _ | .integer _ | .real _ | .text _ | .segments _ | .diagnostics _ => true
  | _ => false

def isFieldName : Value → Bool
  | .text _ | .integer _ | .real _ | .bool _ | .absent => true
  | _ => false

inductive Represents (world : World) : Value → Json → Prop
  | null : Represents world .absent .null
  | bool (flag : Bool) : Represents world (.bool flag) (.bool flag)
  | integer (n : Int) : Represents world (.integer n) (.integer n)
  | real (bits : UInt64) : Represents world (.real bits) (.real bits)
  | text (content : Text) : Represents world (.text content) (.string content)
  | segments (parts : List Segment) :
      Represents world (.segments parts) (.array ((Segment.debugTexts parts).map .string))
  | diagnostics (reports : List Diagnostic) :
      Represents world (.diagnostics reports) (.array (reports.map fun report => .string report.debugText))
  | array {address flavour items trees} : world.store[address]? = some (.sequence flavour items) →
      flavour.isArray = true → items.length = trees.length →
      (∀ item tree, (item, tree) ∈ items.zip trees → Represents world item tree) →
      Represents world (.object address) (.array trees)
  | object {address flavour entries fields} :
      world.store[address]? = some (.mapping flavour entries) → flavour.isJsonObject = true →
      entries.length = fields.length →
      (∀ entry field, (entry, field) ∈ entries.zip fields →
        Json.fieldName world.store entry.1 = .ok field.1) →
      (∀ entry field, (entry, field) ∈ entries.zip fields → Represents world entry.2 field.2) →
      Represents world (.object address) (.object fields)
  | leaf {value text} : value.isNative = false → value.isEntered world.store = false →
      value.Displays world text → Represents world value (.string text)

/-- The values that JSON meets on its way, each with the objects that it is inside of, innermost first. -/
inductive Meets (store : Store) (outer : List Address) (value : Value) : List Address → Value → Prop
  | here : Meets store outer value outer value
  | part {trail address node part} : Meets store outer value trail (.object address) →
      store[address]? = some node → part ∈ node.jsonParts → Meets store outer value (address :: trail) part

/-- JSON meets no object inside itself, no key that is no name, and nothing that it has no form for and that
has no text either. -/
structure JsonReady (world : World) (outer : List Address) (value : Value) : Prop where
  uncircular : ∀ trail address, value.Meets world.store outer trail (.object address) → address ∉ trail
  names : ∀ trail address node key, value.Meets world.store outer trail (.object address) →
    world.store[address]? = some node → key ∈ node.jsonKeys → key.isFieldName = true
  texts : ∀ trail part, value.Meets world.store outer trail part → part.isNative = false →
    part.isEntered world.store = false → ∃ text, part.Displays world text

/-- Neither JSON nor the text of what it does not enter goes further inside than `depth` allows, as long as no
object comes inside itself. -/
structure Fits (store : Store) (outer : List Address) (depth : Nat) (value : Value) : Prop where
  entered : ∀ trail part, value.Meets store outer trail part → trail.Nodup →
    trail.length + part.height ≤ outer.length + depth
  texts : ∀ trail part, value.Meets store outer trail part → trail.Nodup → part.isEntered store = false →
    ∀ inner shown, part.Shows store [] inner shown →
      trail.length + (inner.length + shown.height) ≤ outer.length + depth

section

variable {world : World} {store : Store} {outer trail : List Address} {address : Address} {node : Node}
variable {value inner part : Value} {depth : Nat}

theorem getElem_mem_zip {α β : Type} {firsts : List α} {seconds : List β} {index : Nat}
    (bound : index < firsts.length) (bound' : index < seconds.length) :
    (firsts[index], seconds[index]) ∈ firsts.zip seconds := by
  have inside : index < (firsts.zip seconds).length := by
    rw [List.length_zip]
    omega
  exact List.mem_iff_getElem.mpr ⟨index, inside, List.getElem_zip⟩

theorem exists_mem_zip {α β : Type} {firsts : List α} {seconds : List β}
    (same : firsts.length = seconds.length) {first : α} (member : first ∈ firsts) :
    ∃ second ∈ seconds, (first, second) ∈ firsts.zip seconds := by
  obtain ⟨index, bound, rfl⟩ := List.getElem_of_mem member
  have bound' : index < seconds.length := same ▸ bound
  exact ⟨seconds[index], List.getElem_mem bound', getElem_mem_zip bound bound'⟩

theorem eq_of_zip {α β : Type} {firsts : List α} {seconds others : List β}
    (same : firsts.length = seconds.length) (same' : firsts.length = others.length)
    (equal : ∀ first second other, (first, second) ∈ firsts.zip seconds →
      (first, other) ∈ firsts.zip others → other = second) : others = seconds := by
  refine List.ext_getElem (same'.symm.trans same) fun index bound bound' => ?_
  have inside : index < firsts.length := by omega
  exact equal _ _ _ (getElem_mem_zip inside bound') (getElem_mem_zip inside bound)

theorem jsonParts_subset_contents (node : Node) : node.jsonParts ⊆ node.contents := by
  intro part member
  cases node with
  | sequence flavour items =>
      simp only [Node.jsonParts] at member
      split at member
      · exact member
      · cases member
  | mapping flavour entries =>
      simp only [Node.jsonParts] at member
      split at member
      · obtain ⟨entry, held, rfl⟩ := List.mem_map.mp member
        exact List.mem_flatMap.mpr ⟨entry, held, by simp⟩
      · cases member
  | _ => cases member

theorem jsonParts_of_not_entered (closed : node.isEntered = false) : node.jsonParts = [] := by
  cases node <;> simp [Node.jsonParts, closed]

theorem jsonKeys_of_not_entered (closed : node.isEntered = false) : node.jsonKeys = [] := by
  cases node <;> simp [Node.jsonKeys, closed]

theorem not_entered_node (closed : (Value.object address).isEntered store = false)
    (found : store[address]? = some node) : node.isEntered = false := by
  simpa [isEntered, found] using closed

theorem Represents.unique {tree : Json} (represents : value.Represents world tree) :
    ∀ other, value.Represents world other → other = tree := by
  induction represents with
  | array found entered same _ ih =>
      intro other second
      cases second with
      | array found' _ same' each' =>
          rw [found] at found'
          cases found'
          rw [eq_of_zip same same' fun item tree other member member' =>
            ih item tree member other (each' item other member')]
      | object found' => simp [found] at found'
      | leaf _ closed => simpa [Node.isEntered, entered] using not_entered_node closed found
  | object found entered same names _ ih =>
      intro other second
      cases second with
      | array found' => simp [found] at found'
      | object found' _ same' names' each' =>
          rw [found] at found'
          cases found'
          rw [eq_of_zip same same' fun entry field other member member' => ?_]
          have name := names entry field member
          rw [names' entry other member'] at name
          exact Prod.ext (Except.ok.inj name) (ih entry field member _ (each' entry other member'))
      | leaf _ closed => simpa [Node.isEntered, entered] using not_entered_node closed found
  | leaf foreign closed displays =>
      intro other second
      cases second with
      | array found entered =>
          exact absurd entered (by simpa [Node.isEntered] using not_entered_node closed found)
      | object found entered =>
          exact absurd entered (by simpa [Node.isEntered] using not_entered_node closed found)
      | leaf _ _ displays' => rw [displays.unique displays']
      | _ => cases foreign
  | _ =>
      intro other second
      cases second with
      | leaf foreign => cases foreign
      | _ => rfl

theorem Represents.inside {tree : Json} (represents : (Value.object address).Represents world tree)
    (found : world.store[address]? = some node) (member : part ∈ node.jsonParts) :
    ∃ inner, part.Represents world inner ∧ sizeOf inner < sizeOf tree := by
  cases represents with
  | @array _ flavour items trees found' entered same each =>
      rw [found'] at found
      cases found
      simp only [Node.jsonParts, Node.isEntered, entered, ↓reduceIte] at member
      obtain ⟨inner, held, beside⟩ := exists_mem_zip same member
      refine ⟨inner, each _ _ beside, ?_⟩
      have smaller := List.sizeOf_lt_of_mem held
      simp only [Json.array.sizeOf_spec]
      omega
  | @object _ flavour entries fields found' entered same names each =>
      rw [found'] at found
      cases found
      simp only [Node.jsonParts, Node.isEntered, entered, ↓reduceIte, List.mem_map] at member
      obtain ⟨entry, held, rfl⟩ := member
      obtain ⟨⟨name, inner⟩, held, beside⟩ := exists_mem_zip same held
      refine ⟨inner, each _ _ beside, ?_⟩
      have smaller := List.sizeOf_lt_of_mem held
      simp only [Json.object.sizeOf_spec, Prod.mk.sizeOf_spec] at smaller ⊢
      omega
  | leaf _ closed =>
      rw [jsonParts_of_not_entered (not_entered_node closed found)] at member
      cases member

theorem isFieldName_of_fieldName {key : Value} {name : Text}
    (given : Json.fieldName store key = .ok name) : key.isFieldName = true := by
  cases key with
  | text | integer | real | bool | absent => rfl
  | _ => cases given

theorem Represents.field_names {tree : Json} (represents : (Value.object address).Represents world tree)
    (found : world.store[address]? = some node) {key : Value} (member : key ∈ node.jsonKeys) :
    key.isFieldName = true := by
  cases represents with
  | array found' =>
      rw [found'] at found
      cases found
      cases member
  | @object _ flavour entries fields found' entered same names each =>
      rw [found'] at found
      cases found
      simp only [Node.jsonKeys, Node.isEntered, entered, ↓reduceIte, List.mem_map] at member
      obtain ⟨entry, held, rfl⟩ := member
      obtain ⟨field, _, beside⟩ := exists_mem_zip same held
      exact isFieldName_of_fieldName (names _ _ beside)
  | leaf _ closed =>
      rw [jsonKeys_of_not_entered (not_entered_node closed found)] at member
      cases member

theorem Represents.displays {tree : Json} (represents : value.Represents world tree)
    (foreign : value.isNative = false) (closed : value.isEntered world.store = false) :
    ∃ text, value.Displays world text := by
  cases represents with
  | array found entered =>
      exact absurd entered (by simpa [Node.isEntered] using not_entered_node closed found)
  | object found entered =>
      exact absurd entered (by simpa [Node.isEntered] using not_entered_node closed found)
  | leaf _ _ displays => exact ⟨_, displays⟩
  | _ => cases foreign

/-- A value with a tree is ready for JSON: on the way inwards the trees get smaller, so that no object comes
again. -/
theorem Represents.jsonReady {tree : Json} (represents : value.Represents world tree) :
    value.JsonReady world [] := by
  have shrinking {trail part} (meets : value.Meets world.store [] trail part) :
      ∃ inner, part.Represents world inner ∧ ∀ outer ∈ trail, ∃ around,
        (Value.object outer).Represents world around ∧ sizeOf inner < sizeOf around := by
    induction meets with
    | here => exact ⟨tree, represents, by simp⟩
    | @part trail address node part _ found member ih =>
        obtain ⟨around, represents, wider⟩ := ih
        obtain ⟨inner, inside, smaller⟩ := represents.inside found member
        refine ⟨inner, inside, fun outer held => ?_⟩
        rcases List.mem_cons.mp held with rfl | held
        · exact ⟨around, represents, smaller⟩
        · obtain ⟨outermost, represents, larger⟩ := wider outer held
          exact ⟨outermost, represents, Nat.lt_trans smaller larger⟩
  constructor
  · intro trail address meets again
    obtain ⟨inner, represents, wider⟩ := shrinking meets
    obtain ⟨around, represents', smaller⟩ := wider address again
    rw [represents.unique around represents'] at smaller
    exact Nat.lt_irrefl _ smaller
  · intro trail address node key meets found member
    obtain ⟨inner, represents, _⟩ := shrinking meets
    exact represents.field_names found member
  · intro trail part meets foreign closed
    obtain ⟨inner, represents, _⟩ := shrinking meets
    exact represents.displays foreign closed

theorem Meets.around (meets : part.Meets store (address :: outer) trail inner)
    (found : store[address]? = some node) (member : part ∈ node.jsonParts) :
    (Value.object address).Meets store outer trail inner := by
  induction meets with
  | here => exact .part .here found member
  | part _ found member ih => exact .part ih found member

theorem JsonReady.inside (ready : (Value.object address).JsonReady world outer)
    (found : world.store[address]? = some node) (member : part ∈ node.jsonParts) :
    part.JsonReady world (address :: outer) where
  uncircular := fun trail other meets => ready.uncircular trail other (meets.around found member)
  names := fun trail other node key meets => ready.names trail other node key (meets.around found member)
  texts := fun trail inner meets => ready.texts trail inner (meets.around found member)

theorem Fits.inside (fits : (Value.object address).Fits store outer (depth + 1))
    (found : store[address]? = some node) (member : part ∈ node.jsonParts) :
    part.Fits store (address :: outer) depth where
  entered := by
    intro trail inner meets distinct
    have bound := fits.entered trail inner (meets.around found member) distinct
    rw [List.length_cons]
    omega
  texts := by
    intro trail inner meets distinct closed innermost shown shows
    have bound := fits.texts trail inner (meets.around found member) distinct closed innermost shown shows
    rw [List.length_cons]
    omega

theorem Fits.height_le (fits : value.Fits store outer depth) (distinct : outer.Nodup) :
    value.height ≤ depth := by
  have bound := fits.entered outer value .here distinct
  omega

theorem Fits.fitsText (fits : value.Fits store outer depth) (distinct : outer.Nodup)
    (closed : value.isEntered store = false) : value.FitsText store [] depth := by
  intro trail part shows
  have bound := fits.texts outer value .here distinct closed trail part shows
  rw [List.length_nil]
  omega

end
end Value
end Stencil
