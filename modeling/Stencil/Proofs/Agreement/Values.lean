import Mathlib.Data.List.Forall2
import Mathlib.Data.Option.Basic
import Mathlib.Order.Basic
import Stencil.Accessor.Scripted
import Stencil.Libraries.Standard
import Stencil.Resolve

/-! Stores that differ at most in what private names give. Addresses are paired, and what stands under
paired addresses agrees in all that can be seen without a private name. -/

namespace Stencil

abbrev Pairing := Address → Address → Prop

namespace Pairing

def extend (paired : Pairing) (first second : Address) : Pairing :=
  fun left right => paired left right ∨ (left = first ∧ right = second)

theorem le_extend (paired : Pairing) (first second : Address) : paired ≤ paired.extend first second :=
  fun _ _ => Or.inl

theorem extend_self (paired : Pairing) (first second : Address) :
    paired.extend first second first second :=
  Or.inr ⟨rfl, rfl⟩

end Pairing

def Value.isObject : Value → Bool
  | .object _ => true
  | _ => false

inductive Value.Agrees (paired : Pairing) : Value → Value → Prop
  | object {first second} : paired first second → Agrees paired (.object first) (.object second)
  | immediate (value : Value) : value.isObject = false → Agrees paired value value

inductive Outcome.Agrees (paired : Pairing) : Outcome → Outcome → Prop
  | gives {first second later others} :
      first.Agrees paired second → List.Forall₂ (Value.Agrees paired) later others →
      Agrees paired (.gives first later) (.gives second others)
  | raises (fault : Fault) (message : Text) :
      Agrees paired (.raises fault message) (.raises fault message)

structure Member.Agrees (paired : Pairing) (first second : Member) : Prop where
  role : first.role = second.role
  name : first.name = second.name
  parameters : first.parameters = second.parameters
  outcome : first.outcome.Agrees paired second.outcome

/-- Members under private names may be there or not, and may be anything. -/
structure Blueprint.Agrees (paired : Pairing) (first second : Blueprint) : Prop where
  typeName : first.typeName = second.typeName
  members : ∀ name, isPrivate name = false →
    Option.Rel (Member.Agrees paired) (first.find? name) (second.find? name)

structure Record.Agrees (paired : Pairing) (first second : Record) : Prop where
  typeName : first.typeName = second.typeName
  blueprint : paired first.blueprint second.blueprint
  attributes : ∀ name, isPrivate name = false →
    Option.Rel (Value.Agrees paired) (first.attribute? name) (second.attribute? name)
  writing : first.writing = second.writing
  debug : first.debug = second.debug
  dynamic : first.dynamic = second.dynamic

structure Routine.Agrees (paired : Pairing) (first second : Routine) : Prop where
  bound : first.bound = second.bound
  attributes : ∀ name, isPrivate name = false →
    first.attributes.lookup name = second.attributes.lookup name
  parameters : first.parameters = second.parameters
  outcome : first.outcome.Agrees paired second.outcome

inductive Builtin.Agrees (paired : Pairing) : Builtin → Builtin → Prop
  | length : Agrees paired .length .length
  | maximum : Agrees paired .maximum .maximum
  | attributeLookup : Agrees paired .attributeLookup .attributeLookup
  | upper (receiver : Text) : Agrees paired (.upper receiver) (.upper receiver)
  | split (receiver : Text) : Agrees paired (.split receiver) (.split receiver)
  | join (first second : Text) : Agrees paired (.join first) (.join second)
  | get (first second : Value) : Agrees paired (.get first) (.get second)
  | pop {first second} : paired first second → Agrees paired (.pop first) (.pop second)
  | copy {first second} : paired first second → Agrees paired (.copy first) (.copy second)

def EntryAgrees (paired : Pairing) (first second : Value × Value) : Prop :=
  first.1.Agrees paired second.1 ∧ first.2.Agrees paired second.2

/-- Templates agree with nothing: they are formatted under settings of their own. -/
inductive Node.Agrees (paired : Pairing) : Node → Node → Prop
  | sequence (flavour : SequenceFlavour) {items others} :
      List.Forall₂ (Value.Agrees paired) items others →
      Agrees paired (.sequence flavour items) (.sequence flavour others)
  | mapping (flavour : MappingFlavour) {entries others} :
      List.Forall₂ (EntryAgrees paired) entries others →
      Agrees paired (.mapping flavour entries) (.mapping flavour others)
  | set (frozen : Bool) {items others} :
      List.Forall₂ (Value.Agrees paired) items others →
      Agrees paired (.set frozen items) (.set frozen others)
  | record {first second} : first.Agrees paired second → Agrees paired (.record first) (.record second)
  | blueprint {first second} :
      first.Agrees paired second → Agrees paired (.blueprint first) (.blueprint second)
  | routine {first second} :
      first.Agrees paired second → Agrees paired (.routine first) (.routine second)
  | builtin {first second} :
      first.Agrees paired second → Agrees paired (.builtin first) (.builtin second)
  | stream (stream : Stream) : Agrees paired (.stream stream) (.stream stream)
  | generator (finished : Bool) : Agrees paired (.generator finished) (.generator finished)

/-- Objects are shared in one store as they are in the other, and paired objects agree. -/
structure Store.Agrees (paired : Pairing) (first second : Store) : Prop where
  one_to_one : Relator.BiUnique paired
  nodes : ∀ {left right}, paired left right →
    ∃ node other, first[left]? = some node ∧ second[right]? = some other ∧ node.Agrees paired other

section

variable {paired wider : Pairing}

theorem ne_of_private {word name : Text} (hidden : isPrivate word = true)
    (seen : isPrivate name = false) : name ≠ word := by
  rintro rfl
  rw [hidden] at seen
  cases seen

theorem Value.Agrees.mono (grown : paired ≤ wider) {first second : Value}
    (agree : first.Agrees paired second) : first.Agrees wider second := by
  cases agree with
  | object related => exact .object (grown _ _ related)
  | immediate _ plain => exact .immediate _ plain

theorem forall₂_mono (grown : paired ≤ wider) {firsts seconds : List Value}
    (agree : List.Forall₂ (Value.Agrees paired) firsts seconds) :
    List.Forall₂ (Value.Agrees wider) firsts seconds :=
  agree.imp fun _ _ => Value.Agrees.mono grown

theorem rel_mono {α β : Type} {related implied : α → β → Prop}
    (implies : ∀ first second, related first second → implied first second)
    {first : Option α} {second : Option β} (rel : Option.Rel related first second) :
    Option.Rel implied first second := by
  cases rel with
  | none => exact .none
  | some agree => exact .some (implies _ _ agree)

theorem cases_of_rel {α β : Type} {related : α → β → Prop} {first : Option α} {second : Option β}
    (rel : Option.Rel related first second) :
    (first = none ∧ second = none) ∨
      ∃ here there, first = some here ∧ second = some there ∧ related here there := by
  cases rel with
  | none => exact Or.inl ⟨rfl, rfl⟩
  | some agree => exact Or.inr ⟨_, _, rfl, rfl, agree⟩

theorem exists_of_rel_some {α β : Type} {related : α → β → Prop} {value : α} {other : Option β}
    (rel : Option.Rel related (some value) other) :
    ∃ beside, other = some beside ∧ related value beside := by
  cases rel with
  | some agree => exact ⟨_, rfl, agree⟩

theorem Outcome.Agrees.mono (grown : paired ≤ wider) {first second : Outcome}
    (agree : first.Agrees paired second) : first.Agrees wider second := by
  cases agree with
  | gives head later => exact .gives (head.mono grown) (forall₂_mono grown later)
  | raises fault message => exact .raises fault message

theorem Member.Agrees.mono (grown : paired ≤ wider) {first second : Member}
    (agree : first.Agrees paired second) : first.Agrees wider second :=
  { agree with outcome := agree.outcome.mono grown }

theorem Blueprint.Agrees.mono (grown : paired ≤ wider) {first second : Blueprint}
    (agree : first.Agrees paired second) : first.Agrees wider second where
  typeName := agree.typeName
  members := fun name seen => rel_mono (fun _ _ => Member.Agrees.mono grown) (agree.members name seen)

theorem Record.Agrees.mono (grown : paired ≤ wider) {first second : Record}
    (agree : first.Agrees paired second) : first.Agrees wider second :=
  { agree with
    blueprint := grown _ _ agree.blueprint
    attributes := fun name seen =>
      rel_mono (fun _ _ => Value.Agrees.mono grown) (agree.attributes name seen) }

theorem Builtin.Agrees.mono (grown : paired ≤ wider) {first second : Builtin}
    (agree : first.Agrees paired second) : first.Agrees wider second := by
  cases agree with
  | pop related => exact .pop (grown _ _ related)
  | copy related => exact .copy (grown _ _ related)
  | _ => constructor

theorem Node.Agrees.mono (grown : paired ≤ wider) {first second : Node}
    (agree : first.Agrees paired second) : first.Agrees wider second := by
  cases agree with
  | sequence flavour items => exact .sequence flavour (forall₂_mono grown items)
  | mapping flavour entries =>
      exact .mapping flavour
        (entries.imp fun _ _ agree => ⟨agree.1.mono grown, agree.2.mono grown⟩)
  | set frozen items => exact .set frozen (forall₂_mono grown items)
  | record agree => exact .record (agree.mono grown)
  | blueprint agree => exact .blueprint (agree.mono grown)
  | routine agree => exact .routine { agree with outcome := agree.outcome.mono grown }
  | builtin agree => exact .builtin (agree.mono grown)
  | stream stream => exact .stream stream
  | generator finished => exact .generator finished

theorem forall₂_immediate {items : List Value} (plain : ∀ item ∈ items, item.isObject = false) :
    List.Forall₂ (Value.Agrees paired) items items :=
  List.forall₂_same.mpr fun item member => .immediate item (plain item member)

theorem forall₂_immediate_entries {entries : List (Value × Value)}
    (plain : ∀ entry ∈ entries, entry.1.isObject = false ∧ entry.2.isObject = false) :
    List.Forall₂ (EntryAgrees paired) entries entries :=
  List.forall₂_same.mpr fun entry member =>
    ⟨.immediate _ (plain entry member).1, .immediate _ (plain entry member).2⟩

theorem getElem?_rel {α β : Type} {related : α → β → Prop} {firsts : List α} {seconds : List β}
    (agree : List.Forall₂ related firsts seconds) (index : Nat) :
    Option.Rel related firsts[index]? seconds[index]? := by
  induction agree generalizing index with
  | nil => exact .none
  | cons head _ ih =>
      cases index with
      | zero => exact .some head
      | succ index => exact ih index

theorem lookup_rel {entries others : List (Value × Value)}
    (agree : List.Forall₂ (EntryAgrees paired) entries others) (name : Text) :
    Option.Rel (Value.Agrees paired) (entries.lookup (.text name)) (others.lookup (.text name)) := by
  induction agree with
  | nil => exact .none
  | @cons entry other _ _ head _ ih =>
      obtain ⟨key, item⟩ := entry
      obtain ⟨otherKey, otherItem⟩ := other
      obtain ⟨keys, items⟩ := head
      have same : (Value.text name == key) = (Value.text name == otherKey) := by
        cases keys with
        | object => rfl
        | immediate => rfl
      rw [List.lookup_cons, List.lookup_cons, same]
      cases Value.text name == otherKey with
      | true => exact .some items
      | false => exact ih

namespace Store.Agrees

variable {left right : Store}

theorem set (stores : Store.Agrees paired left right) {first second : Address}
    (related : paired first second) {node other : Node} (agree : node.Agrees paired other) :
    Store.Agrees paired (left.setIfInBounds first node) (right.setIfInBounds second other) where
  one_to_one := stores.one_to_one
  nodes := by
    intro address another also
    obtain ⟨here, there, found, beside, kept⟩ := stores.nodes also
    by_cases hit : first = address
    · have hit' : second = another := stores.one_to_one.2 related (hit ▸ also)
      subst hit hit'
      have inside : first < left.size := (Array.getElem?_eq_some_iff.mp found).1
      have inside' : second < right.size := (Array.getElem?_eq_some_iff.mp beside).1
      exact ⟨node, other, by simp [inside], by simp [inside'], agree⟩
    · have miss : second ≠ another := by
        rintro rfl
        exact hit (stores.one_to_one.1 related also)
      exact ⟨here, there, by simp [hit, found], by simp [miss, beside], kept⟩

theorem lt_size (stores : Store.Agrees paired left right) {first second : Address}
    (related : paired first second) : first < left.size ∧ second < right.size := by
  obtain ⟨_, _, found, beside, _⟩ := stores.nodes related
  exact ⟨(Array.getElem?_eq_some_iff.mp found).1, (Array.getElem?_eq_some_iff.mp beside).1⟩

theorem push (stores : Store.Agrees paired left right) {node other : Node}
    (agree : node.Agrees paired other) :
    Store.Agrees (paired.extend left.size right.size) (left.push node) (right.push other) where
  one_to_one := by
    constructor
    · rintro first second third (related | ⟨rfl, rfl⟩) (also | ⟨rfl, same⟩)
      · exact stores.one_to_one.1 related also
      · exact absurd same (Nat.ne_of_lt (stores.lt_size related).2)
      · exact absurd (stores.lt_size also).2 (Nat.lt_irrefl _)
      · rfl
    · rintro first second third (related | ⟨rfl, rfl⟩) (also | ⟨same, rfl⟩)
      · exact stores.one_to_one.2 related also
      · exact absurd same (Nat.ne_of_lt (stores.lt_size related).1)
      · exact absurd (stores.lt_size also).1 (Nat.lt_irrefl _)
      · rfl
  nodes := by
    have grown := paired.le_extend left.size right.size
    rintro first second (related | ⟨rfl, rfl⟩)
    · obtain ⟨here, there, found, beside, kept⟩ := stores.nodes related
      obtain ⟨inside, inside'⟩ := stores.lt_size related
      exact ⟨here, there, by simp [Array.getElem?_push, Nat.ne_of_lt inside, found],
        by simp [Array.getElem?_push, Nat.ne_of_lt inside', beside], kept.mono grown⟩
    · exact ⟨node, other, by simp, by simp, agree.mono grown⟩

end Store.Agrees

namespace Node.Agrees

variable {first second : Node}

theorem kind (agree : first.Agrees paired second) : first.kind = second.kind := by
  cases agree <;> rfl

theorem typeName (agree : first.Agrees paired second) : first.typeName = second.typeName := by
  cases agree with
  | record agree => exact agree.typeName
  | @routine first second agree =>
      change (if first.bound then "method" else "function").toList = _
      rw [agree.bound]
      rfl
  | _ => rfl

theorem closedType? (agree : first.Agrees paired second) :
    first.closedType? = second.closedType? := by
  cases agree with
  | routine agree => simp only [Node.closedType?, agree.bound]
  | _ => rfl

theorem takesNoArguments (agree : first.Agrees paired second) :
    first.takesNoArguments = second.takesNoArguments := by
  cases agree with
  | routine agree => simp only [Node.takesNoArguments, agree.parameters]
  | builtin agree => cases agree <;> rfl
  | _ => rfl

end Node.Agrees

namespace Value.Agrees

variable {left right : Store} {first second : Value}

theorem kind (agree : first.Agrees paired second) (stores : Store.Agrees paired left right) :
    first.kind left = second.kind right := by
  cases agree with
  | object related =>
      obtain ⟨node, other, found, beside, agree⟩ := stores.nodes related
      simp only [Value.kind, found, beside, agree.kind]
  | immediate _ plain =>
      cases first with
      | object => cases plain
      | _ => rfl

theorem typeName (agree : first.Agrees paired second) (stores : Store.Agrees paired left right) :
    first.typeName left = second.typeName right := by
  cases agree with
  | object related =>
      obtain ⟨node, other, found, beside, agree⟩ := stores.nodes related
      unfold Value.typeName
      dsimp only
      rw [found, beside]
      exact agree.typeName
  | immediate _ plain =>
      cases first with
      | object => cases plain
      | _ => rfl

theorem closedType? (agree : first.Agrees paired second) (stores : Store.Agrees paired left right) :
    first.closedType? left = second.closedType? right := by
  cases agree with
  | object related =>
      obtain ⟨node, other, found, beside, agree⟩ := stores.nodes related
      simp only [Value.closedType?, found, beside, Option.bind_some, agree.closedType?]
  | immediate _ plain =>
      cases first with
      | object => cases plain
      | handle self => cases self <;> rfl
      | segment self => cases self <;> rfl
      | _ => rfl

theorem takesNoArguments (agree : first.Agrees paired second)
    (stores : Store.Agrees paired left right) :
    first.takesNoArguments left = second.takesNoArguments right := by
  cases agree with
  | object related =>
      obtain ⟨node, other, found, beside, agree⟩ := stores.nodes related
      simp only [Value.takesNoArguments, found, beside, agree.takesNoArguments]
  | immediate _ plain =>
      cases first with
      | object => cases plain
      | _ => rfl

theorem length (agree : first.Agrees paired second) (stores : Store.Agrees paired left right) :
    first.length left = second.length right := by
  cases agree with
  | object related =>
      obtain ⟨node, other, found, beside, agree⟩ := stores.nodes related
      simp only [Value.length, found, beside]
      cases agree with
      | sequence flavour items => exact items.length_eq
      | _ => rfl
  | immediate _ plain =>
      cases first with
      | object => cases plain
      | _ => rfl

theorem item? (agree : first.Agrees paired second) (stores : Store.Agrees paired left right)
    (index : Nat) :
    Option.Rel (Value.Agrees paired) (first.item? left index) (second.item? right index) := by
  cases agree with
  | object related =>
      obtain ⟨node, other, found, beside, agree⟩ := stores.nodes related
      simp only [Value.item?, found, beside]
      cases agree with
      | sequence flavour items => exact getElem?_rel items index
      | _ => exact .none
  | immediate _ plain =>
      cases first with
      | object => cases plain
      | range start stop step =>
          simp only [Value.item?]
          split
          · exact .some (.immediate _ rfl)
          · exact .none
      | segments parts =>
          simp only [Value.item?]
          cases parts[index]? with
          | none => exact .none
          | some part => exact .some (.immediate _ rfl)
      | diagnostics reports =>
          simp only [Value.item?]
          cases reports[index]? with
          | none => exact .none
          | some report => exact .some (.immediate _ rfl)
      | _ => exact .none

theorem entry? (agree : first.Agrees paired second) (stores : Store.Agrees paired left right)
    (name : Text) :
    Option.Rel (Value.Agrees paired) (first.entry? left name) (second.entry? right name) := by
  cases agree with
  | object related =>
      obtain ⟨node, other, found, beside, agree⟩ := stores.nodes related
      simp only [Value.entry?, found, beside]
      cases agree with
      | mapping flavour entries => exact lookup_rel entries name
      | _ => exact .none
  | immediate _ plain =>
      cases first with
      | object => cases plain
      | _ => exact .none

end Value.Agrees
end
end Stencil
