import Stencil.Accessor.Scripted
import Stencil.Libraries.Standard
import Stencil.Proofs.Agreement.Values
import Stencil.Proofs.Run.Relation

/-! Where a run can get to. The objects that a value reaches are a region of the store, which a run leaves
only for objects that it makes itself. Objects change, but each stays of its sort, mappings and templates
stay as they are, and whoever meets no template reports nothing. -/

namespace Stencil

open Run

def Outcome.values : Outcome → List Value
  | .gives value later => value :: later
  | .raises _ _ => []

def Node.values : Node → List Value
  | .sequence _ items | .set _ items => items
  | .mapping _ entries => entries.flatMap fun entry => [entry.1, entry.2]
  | .record self => .object self.blueprint :: self.attributes.map Prod.snd
  | .blueprint self => self.members.flatMap (·.outcome.values)
  | .routine self => self.outcome.values
  | .builtin self => self.receiver?.toList
  | .template self => [self.binding]
  | .stream _ | .generator _ => []

inductive Value.Reaches (store : Store) (value : Value) : Address → Prop
  | self {address} : value = .object address → Reaches store value address
  | part {holder node address} :
      Reaches store value holder → store[holder]? = some node → .object address ∈ node.values →
      Reaches store value address

def Value.ReachesNoTemplate (store : Store) (value : Value) : Prop :=
  ∀ address template, value.Reaches store address → store[address]? ≠ some (.template template)

def Event.isReport : Event → Bool
  | .log .warning _ _ | .warning _ _ _ => true
  | .log .debug _ _ | .read _ _ | .called _ => false

abbrev Region := Address → Prop

namespace Region

def extend (region : Region) (fresh : Address) : Region :=
  fun address => region address ∨ address = fresh

theorem le_extend (region : Region) (fresh : Address) : region ≤ region.extend fresh :=
  fun _ => Or.inl

theorem extend_self (region : Region) (fresh : Address) : region.extend fresh fresh :=
  Or.inr rfl

end Region

def Value.Within (region : Region) (value : Value) : Prop :=
  ∀ address, value = .object address → region address

def Node.Within (region : Region) (node : Node) : Prop :=
  ∀ value ∈ node.values, value.Within region

section

variable {region wider : Region}

@[simp]
theorem Value.within_object (address : Address) :
    (Value.object address).Within region ↔ region address := by
  simp [Value.Within]

theorem Value.within_of_immediate {value : Value} (plain : value.isObject = false) :
    value.Within region := by
  rintro address rfl
  cases plain

theorem Value.Within.mono {value : Value} (grown : region ≤ wider) (within : value.Within region) :
    value.Within wider :=
  fun address same => grown address (within address same)

theorem Node.Within.mono {node : Node} (grown : region ≤ wider) (within : node.Within region) :
    node.Within wider :=
  fun value member => (within value member).mono grown

end

inductive Node.Becomes : Node → Node → Prop
  | same (node : Node) : Becomes node node
  | sequence (flavour : SequenceFlavour) (items others : List Value) :
      Becomes (.sequence flavour items) (.sequence flavour others)
  | set (frozen : Bool) (items others : List Value) : Becomes (.set frozen items) (.set frozen others)
  | blueprint (first second : Blueprint) : Becomes (.blueprint first) (.blueprint second)
  | routine (first second : Routine) : Becomes (.routine first) (.routine second)
  | stream (first second : Stream) : Becomes (.stream first) (.stream second)
  | generator (first second : Bool) : Becomes (.generator first) (.generator second)

namespace Node.Becomes

variable {first second third : Node}

theorem trans (before : first.Becomes second) (after : second.Becomes third) : first.Becomes third := by
  cases before with
  | same => exact after
  | _ => cases after <;> constructor

theorem bindable (becomes : first.Becomes second) : second.bindable = first.bindable := by
  cases becomes <;> rfl

theorem eq_of_template {template : Template} (becomes : Node.Becomes first (.template template)) :
    first = .template template := by
  cases becomes
  rfl

end Node.Becomes

/-- What a run may do to a world. Only a run that meets templates may report anything. -/
structure World.Evolves (templates : Prop) (before after : World) : Prop where
  kept : ∀ {address : Address} {node : Node}, before.store[address]? = some node →
    ∃ later, after.store[address]? = some later ∧ node.Becomes later
  strict : after.strict = before.strict
  told : ∃ noted, after.journal = before.journal ++ noted ∧
    ∀ event ∈ noted, event.isReport = true → templates

namespace World.Evolves

variable {templates : Prop} {first second third : World}

theorem refl (templates : Prop) (world : World) : world.Evolves templates world where
  kept := fun found => ⟨_, found, .same _⟩
  strict := rfl
  told := ⟨[], by simp⟩

theorem trans (before : first.Evolves templates second) (after : second.Evolves templates third) :
    first.Evolves templates third where
  kept := by
    intro address node found
    obtain ⟨middle, found, early⟩ := before.kept found
    obtain ⟨later, found, late⟩ := after.kept found
    exact ⟨later, found, early.trans late⟩
  strict := after.strict.trans before.strict
  told := by
    obtain ⟨noted, grown, quiet⟩ := before.told
    obtain ⟨others, further, still⟩ := after.told
    refine ⟨noted ++ others, by rw [further, grown, List.append_assoc], ?_⟩
    intro event member
    rcases List.mem_append.mp member with member | member
    · exact quiet event member
    · exact still event member

theorem template (evolves : first.Evolves templates second) {address : Address} {template : Template}
    (found : first.store[address]? = some (.template template)) :
    second.store[address]? = some (.template template) := by
  obtain ⟨later, found, becomes⟩ := evolves.kept found
  cases becomes
  exact found

end World.Evolves

/-- A world with a region of its store that holds on to nothing outside of it, and that has templates only
if they are allowed. -/
structure Scene (templates : Prop) where
  world : World
  region : Region
  closed : ∀ {address node}, region address → world.store[address]? = some node → node.Within region
  lone : ∀ {address template}, region address → world.store[address]? = some (.template template) →
    templates

namespace Scene

variable {templates : Prop}

instance : Preorder (Scene templates) where
  le first second := first.region ≤ second.region ∧ first.world.Evolves templates second.world
  le_refl scene := ⟨le_refl _, .refl templates scene.world⟩
  le_trans _ _ _ before after := ⟨le_trans before.1 after.1, before.2.trans after.2⟩

def around (world : World) (value : Value) (apart : value.ReachesNoTemplate world.store) :
    Scene False where
  world := world
  region := value.Reaches world.store
  closed := by
    rintro address node inside found _ member part rfl
    exact .part inside found member
  lone := fun inside found => apart _ _ inside found

def whole (world : World) : Scene True where
  world := world
  region := fun _ => True
  closed := fun _ _ _ _ _ _ => trivial
  lone := fun _ _ => trivial

def moved (scene : Scene templates) (world : World) (same : world.store = scene.world.store) :
    Scene templates where
  world := world
  region := scene.region
  closed := fun inside found => scene.closed inside (same ▸ found)
  lone := fun inside found => scene.lone inside (same ▸ found)

end Scene

section

variable {templates : Prop} {scene : Scene templates} {α β γ : Type}

/-- From a scene a run gets to a later one, and what it gives is as `values` says of that scene. -/
def Leads (scene : Scene templates) (values : Scene templates → α → Prop) (action : Run α) : Prop :=
  ∃ later, scene ≤ later ∧ (action.outcome scene.world).2 = later.world ∧
    ∀ value, (action.outcome scene.world).1 = .ok value → values later value

abbrev Passes (scene : Scene templates) (action : Run α) : Prop :=
  Leads scene (fun _ _ => True) action

namespace Leads

variable {values : Scene templates → α → Prop} {others : Scene templates → β → Prop}

theorem pure {value : α} (holds : values scene value) : Leads scene values (Pure.pure value) := by
  refine ⟨scene, le_refl _, rfl, ?_⟩
  rintro _ ⟨⟩
  exact holds

theorem throw (failure : Failure) : Leads scene values (MonadExcept.throw failure) :=
  ⟨scene, le_refl _, rfl, fun _ given => nomatch given⟩

theorem ofExcept {result : Except Failure α} (holds : ∀ value, result = .ok value → values scene value) :
    Leads scene values (Run.ofExcept result) := by
  cases result with
  | ok value => exact pure (holds value rfl)
  | error failure => exact throw failure

theorem ofExcept_passes (result : Except Failure α) : Passes scene (Run.ofExcept result) :=
  ofExcept fun _ _ => trivial

theorem imp {implied : Scene templates → α → Prop} {action : Run α} (leads : Leads scene values action)
    (implies : ∀ later, scene ≤ later → ∀ value, values later value → implied later value) :
    Leads scene implied action := by
  obtain ⟨later, reached, world, holds⟩ := leads
  exact ⟨later, reached, world, fun value given => implies later reached value (holds value given)⟩

theorem bind {action : Run α} {next : α → Run β} (head : Leads scene values action)
    (tail : ∀ later, scene ≤ later → ∀ value, values later value → Leads later others (next value)) :
    Leads scene others (action >>= next) := by
  obtain ⟨middle, reached, world, holds⟩ := head
  unfold Leads
  rw [outcome_bind]
  generalize action.outcome scene.world = ended at *
  obtain ⟨result, after⟩ := ended
  dsimp only at world holds
  subst world
  cases result with
  | ok value =>
      obtain ⟨later, further, world, holds⟩ := tail middle reached value (holds value rfl)
      exact ⟨later, le_trans reached further, world, holds⟩
  | error failure => exact ⟨middle, reached, rfl, fun _ given => nomatch given⟩

theorem bind_passes {action : Run α} {next : α → Run β} (head : Passes scene action)
    (tail : ∀ later, scene ≤ later → ∀ value, Leads later others (next value)) :
    Leads scene others (action >>= next) :=
  bind head fun later reached value _ => tail later reached value

theorem passes {action : Run α} (leads : Leads scene values action) : Passes scene action :=
  leads.imp fun _ _ _ _ => trivial

theorem tryCatch {action : Run α} {handler : Failure → Run α} (body : Leads scene values action)
    (rescue : ∀ later, scene ≤ later → ∀ failure, Leads later values (handler failure)) :
    Leads scene values (MonadExcept.tryCatch action handler) := by
  obtain ⟨middle, reached, world, holds⟩ := body
  unfold Leads
  rw [outcome_tryCatch]
  generalize action.outcome scene.world = ended at *
  obtain ⟨result, after⟩ := ended
  dsimp only at world holds
  subst world
  cases result with
  | ok value => exact ⟨middle, reached, rfl, holds⟩
  | error failure =>
      obtain ⟨later, further, world, holds⟩ := rescue middle reached failure
      exact ⟨later, le_trans reached further, world, holds⟩

theorem mapM {each : α → Run β} (items : List α)
    (passes : ∀ item ∈ items, ∀ later, scene ≤ later → Passes later (each item)) :
    Passes scene (items.mapM each) := by
  induction items generalizing scene with
  | nil =>
      rw [List.mapM_nil]
      exact pure trivial
  | cons item rest ih =>
      rw [List.mapM_cons]
      refine bind_passes (passes item List.mem_cons_self scene (le_refl _)) ?_
      intro middle reached _
      refine bind_passes (ih fun item member later further =>
        passes item (List.mem_cons_of_mem _ member) later (le_trans reached further)) ?_
      intro _ _ _
      exact pure trivial

theorem forM {each : α → Run Unit} (items : List α)
    (passes : ∀ item ∈ items, ∀ later, scene ≤ later → Passes later (each item)) :
    Passes scene (items.forM each) := by
  induction items generalizing scene with
  | nil => exact pure trivial
  | cons item rest ih =>
      refine bind_passes (passes item List.mem_cons_self scene (le_refl _)) ?_
      intro middle reached _
      exact ih fun item member later further =>
        passes item (List.mem_cons_of_mem _ member) later (le_trans reached further)

theorem foldlM {step : α → γ → Run α} (items : List γ) {first : α} (start : values scene first)
    (each : ∀ item ∈ items, ∀ later, scene ≤ later → ∀ value, values later value →
      Leads later values (step value item)) :
    Leads scene values (items.foldlM step first) := by
  induction items generalizing scene first with
  | nil =>
      rw [List.foldlM_nil]
      exact pure start
  | cons item rest ih =>
      rw [List.foldlM_cons]
      refine bind (each item List.mem_cons_self scene (le_refl _) first start) ?_
      intro middle reached value holds
      exact ih holds fun item member later further =>
        each item (List.mem_cons_of_mem _ member) later (le_trans reached further)

theorem store : Leads scene (fun later found => found = later.world.store) Run.store := by
  refine ⟨scene, le_refl _, rfl, ?_⟩
  rintro _ ⟨⟩
  rfl

theorem world : Leads scene (fun later found => found = later.world) Run.world := by
  refine ⟨scene, le_refl _, rfl, ?_⟩
  rintro _ ⟨⟩
  rfl

theorem node? (address : Address) :
    Leads scene (fun later found => found = later.world.store[address]?) (Run.node? address) := by
  refine ⟨scene, le_refl _, rfl, ?_⟩
  rintro _ ⟨⟩
  rfl

theorem note {event : Event} (quiet : event.isReport = true → templates) :
    Passes scene (Run.note event) := by
  refine ⟨scene.moved { scene.world with journal := scene.world.journal ++ [event] } rfl,
    ⟨le_refl _, ?_⟩, rfl, fun _ _ => trivial⟩
  refine ⟨fun found => ⟨_, found, .same _⟩, rfl, [event], rfl, ?_⟩
  rintro _ (_ | ⟨_, ⟨⟩⟩)
  exact quiet

theorem setNode {address : Address} {node old : Node} (inside : scene.region address)
    (found : scene.world.store[address]? = some old) (becomes : old.Becomes node)
    (within : node.Within scene.region) : Passes scene (Run.setNode address node) := by
  have stored {other : Address} {current : Node}
      (there : (scene.world.store.setIfInBounds address node)[other]? = some current) :
      (other = address ∧ current = node) ∨ scene.world.store[other]? = some current := by
    rw [Array.getElem?_setIfInBounds] at there
    split at there
    · rename_i same
      split at there
      · exact Or.inl ⟨same.symm, (Option.some.inj there).symm⟩
      · cases there
    · exact Or.inr there
  refine ⟨⟨{ scene.world with store := scene.world.store.setIfInBounds address node },
    scene.region, ?_, ?_⟩, ⟨le_refl _, ?_, rfl, [], by simp⟩, rfl, fun _ _ => trivial⟩
  · intro other current inside there
    rcases stored there with ⟨_, rfl⟩ | there
    · exact within
    · exact scene.closed inside there
  · intro other template reached there
    rcases stored there with ⟨_, rfl⟩ | there
    · exact scene.lone inside (becomes.eq_of_template ▸ found)
    · exact scene.lone reached there
  · intro other current before
    by_cases same : address = other
    · subst same
      rw [found] at before
      cases before
      obtain ⟨bound, _⟩ := Array.getElem?_eq_some_iff.mp found
      exact ⟨node, by simp [bound], becomes⟩
    · exact ⟨current, by simpa [Array.getElem?_setIfInBounds, same] using before, .same _⟩

theorem allocate {node : Node} (within : node.Within scene.region)
    (lone : ∀ template, node = .template template → templates) :
    Leads scene (fun later value => value.Within later.region) (Run.allocate node) := by
  have fresh := Region.extend_self scene.region scene.world.store.size
  have grown := Region.le_extend scene.region scene.world.store.size
  have stored {other : Address} {current : Node}
      (inside : (scene.region.extend scene.world.store.size) other)
      (there : (scene.world.store.push node)[other]? = some current) :
      current = node ∨ (scene.region other ∧ scene.world.store[other]? = some current) := by
    rw [Array.getElem?_push] at there
    split at there
    · exact Or.inl (Option.some.inj there).symm
    · exact Or.inr ⟨inside.resolve_right (by assumption), there⟩
  refine ⟨⟨{ scene.world with store := scene.world.store.push node },
    scene.region.extend scene.world.store.size, ?_, ?_⟩, ⟨grown, ?_, rfl, [], by simp⟩, rfl, ?_⟩
  · intro other current inside there
    rcases stored inside there with rfl | ⟨inside, there⟩
    · exact within.mono grown
    · exact (scene.closed inside there).mono grown
  · intro other template inside there
    rcases stored inside there with same | ⟨inside, there⟩
    · exact lone template same.symm
    · exact scene.lone inside there
  · intro other current before
    obtain ⟨bound, _⟩ := Array.getElem?_eq_some_iff.mp before
    refine ⟨current, ?_, .same _⟩
    rw [Array.getElem?_push, if_neg (Nat.ne_of_lt bound)]
    exact before
  · rintro _ ⟨⟩
    exact (Value.within_object _).mpr fresh

end Leads
end
end Stencil
