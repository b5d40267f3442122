import Stencil.Proofs.Path.Spelling
import Stencil.Proofs.Settings.Loading
import Stencil.Resolve

/-! What resolving an expression does on its way through a binding: the keys at which it reads an accessor, what
it calls there, and that nothing happens in between. The code behind accessors may do anything. -/

namespace Stencil

open Run

def Event.isRead : Event → Bool
  | .read _ _ => true
  | .called _ | .log _ _ _ | .warning _ _ _ => false

def Parameter.IsRequired (parameter : Parameter) : Prop :=
  parameter.shape ≠ .manyPositional ∧ parameter.shape ≠ .manyKeyword ∧ parameter.hasDefault = false

/-- What a function, a method or a builtin shows of the arguments that it cannot do without. Two builtins show
nothing of those that they need. -/
def Node.Requires : Node → Prop
  | .routine self => ∃ parameter ∈ self.parameters, parameter.IsRequired
  | .builtin .length | .builtin (.join _) | .builtin (.get _) => True
  | _ => False

/-- A callee shows an argument that it cannot do without: a parameter of its own, or the object that it still
has to be called on. -/
inductive Callee.Requires (store : Store) : Callee → Prop
  | member {address name blueprint member parameter} :
      store[address]? = some (.blueprint blueprint) → blueprint.find? name = some member →
      parameter ∈ member.parameters → parameter.IsRequired → Requires store (.member address name)
  | routine {address node} : store[address]? = some node → node.Requires → Requires store (.routine address)
  | builtin {address node} : store[address]? = some node → node.Requires → Requires store (.builtin address)
  | unbound (blueprint : Address) (name : Text) : Requires store (.unbound blueprint name)
  | rebind (template : Address) : Requires store (.rebind template)
  | lacksArguments (receiver : Value) (name : Text) : Requires store (.lacksArguments receiver name)

namespace Reading

inductive Offers (store : Store) : Reading → Callee → Prop
  | callable (callee : Callee) : Offers store (.callable callee) callee
  | routine {address routine} : store[address]? = some (.routine routine) →
      Offers store (.value (.object address)) (.routine address)
  | builtin {address builtin} : store[address]? = some (.builtin builtin) →
      Offers store (.value (.object address)) (.builtin address)

def Lacks (read : Except Failure Reading) : Prop :=
  read = .ok .missing ∨ ∃ failure, read = .error failure ∧ failure.fault? = some .attribute

end Reading

/-- Code of the binding at work, on what is told of it first: the world that it finds and the one it leaves. -/
structure Turn where
  event : Event
  before : World
  after : World

/-- From one world to another by turns alone: each finds the world as the one before has left it. -/
def Through : World → List Turn → World → Prop
  | start, [], reached => reached = start
  | start, turn :: later, reached => turn.before = start ∧ Through turn.after later reached

section

variable [Bodies]

inductive Turn.Runs (reentry : Reentry) : Turn → Prop
  | read {owner name before read after} :
      (Bodies.read owner name).outcome (before.noting [.read owner name]) = (read, after) →
      Runs reentry ⟨.read owner name, before, after⟩
  | called {callee before result after} :
      (Bodies.call reentry callee).outcome (before.noting [.called callee]) = (result, after) →
      Runs reentry ⟨.called callee, before, after⟩

/-- One use of an accessor. It is read once; what is read is called once if it is a routine that shows no
required argument, and is not called otherwise. What a call gives is final. -/
inductive Uses (reentry : Reentry) (expression : Text) (owner : Value) (name : Text) (before : World) :
    List Turn → Except Failure Value → World → Prop
  | raises {failure after} :
      (Bodies.read owner name).outcome (before.noting [.read owner name]) = (.error failure, after) →
      failure.fault? ≠ some .attribute →
      Uses reentry expression owner name before [⟨.read owner name, before, after⟩] (.error failure) after
  | lacks {read after} :
      (Bodies.read owner name).outcome (before.noting [.read owner name]) = (read, after) →
      Reading.Lacks read →
      Uses reentry expression owner name before [⟨.read owner name, before, after⟩]
        (.error (.typeMismatch name expression (expectedAccessor name) (owner.typeName before.store))) after
  | value {found after} :
      (Bodies.read owner name).outcome (before.noting [.read owner name]) = (.ok (.value found), after) →
      (∀ callee, ¬(Reading.value found).Offers after.store callee) →
      Uses reentry expression owner name before [⟨.read owner name, before, after⟩] (.ok found) after
  | refuses {reading callee after} :
      (Bodies.read owner name).outcome (before.noting [.read owner name]) = (.ok reading, after) →
      reading.Offers after.store callee → callee.Requires after.store →
      Uses reentry expression owner name before [⟨.read owner name, before, after⟩]
        (.error (.typeMismatch name expression expectedNoArguments
          (actualMethod (owner.typeName before.store) name))) after
  | calls {reading callee middle result after} :
      (Bodies.read owner name).outcome (before.noting [.read owner name]) = (.ok reading, middle) →
      reading.Offers middle.store callee → ¬callee.Requires middle.store →
      (Bodies.call reentry callee).outcome (middle.noting [.called callee]) = (result, after) →
      Uses reentry expression owner name before
        [⟨.read owner name, before, middle⟩, ⟨.called callee, middle, after⟩] result after

end

structure Visit where
  key : Key
  node : Value
  world : World
  turns : List Turn

namespace Visit

/-- An accessor is read for a name, at a record, unless the name is private and may not be read. -/
def ReadsAccessor (settings : Settings) (visit : Visit) : Prop :=
  visit.key.index = none ∧ visit.node.kind visit.world.store = .record ∧
    (isPrivate visit.key.raw = true → settings.allowPrivate = true)

instance (settings : Settings) (visit : Visit) : Decidable (visit.ReadsAccessor settings) :=
  inferInstanceAs (Decidable (_ ∧ _ ∧ (_ → _)))

structure Goes [Bodies] (reentry : Reentry) (settings : Settings) (expression : Text) (visit : Visit)
    (result : Except Failure Value) (after : World) : Prop where
  steps : (step reentry settings expression visit.node visit.key).outcome visit.world = (result, after)
  uses : visit.ReadsAccessor settings →
    Uses reentry expression visit.node visit.key.raw visit.world visit.turns result after
  passes : ¬visit.ReadsAccessor settings → visit.turns = [] ∧ after = visit.world

end Visit

/-- The visits of a walk, one for each key in turn, up to its end or to the first that fails. -/
inductive Route [Bodies] (reentry : Reentry) (settings : Settings) (expression : Text) :
    Value → List Key → World → List Visit → Except Failure Value → World → Prop
  | ends (node : Value) (world : World) : Route reentry settings expression node [] world [] (.ok node) world
  | stops {visit rest failure after} : visit.Goes reentry settings expression (.error failure) after →
      Route reentry settings expression visit.node (visit.key :: rest) visit.world [visit]
        (.error failure) after
  | goes {visit rest next middle visits result after} :
      visit.Goes reentry settings expression (.ok next) middle →
      Route reentry settings expression next rest middle visits result after →
      Route reentry settings expression visit.node (visit.key :: rest) visit.world (visit :: visits)
        result after

section

theorem Through.append {start middle reached : World} {first later : List Turn}
    (head : Through start first middle) (tail : Through middle later reached) :
    Through start (first ++ later) reached := by
  induction first generalizing start with
  | nil =>
      cases head
      exact tail
  | cons turn rest ih => exact ⟨head.1, ih head.2⟩

theorem Through.keeps {α : Type} (view : World → α) {start reached : World} {turns : List Turn}
    (through : Through start turns reached) (kept : ∀ turn ∈ turns, view turn.after = view turn.before) :
    view reached = view start := by
  induction turns generalizing start with
  | nil => rw [through]
  | cons turn rest ih =>
      obtain ⟨found, later⟩ := through
      rw [ih later fun other member => kept other (List.mem_cons_of_mem _ member),
        kept turn List.mem_cons_self, found]

section

variable [Bodies] {reentry : Reentry} {settings : Settings} {expression name : Text}

variable {owner : Value} {before after : World} {turns : List Turn} {result : Except Failure Value}

theorem Uses.through (uses : Uses reentry expression owner name before turns result after) :
    Through before turns after := by
  cases uses with
  | calls => exact ⟨rfl, rfl, rfl⟩
  | _ => exact ⟨rfl, rfl⟩

theorem Uses.runs (uses : Uses reentry expression owner name before turns result after) :
    ∀ turn ∈ turns, turn.Runs reentry := by
  cases uses with
  | calls read _ _ called =>
      rintro turn (_ | ⟨_, _ | ⟨_, ⟨⟩⟩⟩)
      · exact .read read
      · exact .called called
  | raises read | lacks read | value read | refuses read =>
      rintro turn (_ | ⟨_, ⟨⟩⟩)
      exact .read read

theorem Uses.reads_eq (uses : Uses reentry expression owner name before turns result after) :
    (turns.map Turn.event).filter Event.isRead = [.read owner name] := by
  cases uses <;> rfl

variable {visit : Visit}

theorem Visit.Goes.through (goes : visit.Goes reentry settings expression result after) :
    Through visit.world visit.turns after := by
  by_cases reads : visit.ReadsAccessor settings
  · exact (goes.uses reads).through
  · obtain ⟨none, same⟩ := goes.passes reads
    rw [none]
    exact same

variable {node : Value} {keys : List Key} {world : World} {visits : List Visit}

theorem Route.through (route : Route reentry settings expression node keys world visits result after) :
    Through world (visits.flatMap Visit.turns) after := by
  induction route with
  | ends => rfl
  | stops goes =>
      rw [List.flatMap_singleton]
      exact goes.through
  | goes goes _ ih =>
      rw [List.flatMap_cons]
      exact goes.through.append ih

theorem Visit.Goes.runs (goes : visit.Goes reentry settings expression result after) :
    ∀ turn ∈ visit.turns, turn.Runs reentry := by
  by_cases reads : visit.ReadsAccessor settings
  · exact (goes.uses reads).runs
  · rw [(goes.passes reads).1]
    simp

theorem Route.runs (route : Route reentry settings expression node keys world visits result after) :
    ∀ turn ∈ visits.flatMap Visit.turns, turn.Runs reentry := by
  induction route with
  | ends => simp
  | stops goes =>
      rw [List.flatMap_singleton]
      exact goes.runs
  | goes goes _ ih =>
      rw [List.flatMap_cons]
      intro turn member
      exact (List.mem_append.mp member).elim (goes.runs turn) (ih turn)

theorem Visit.Goes.reads_eq (goes : visit.Goes reentry settings expression result after) :
    (visit.turns.map Turn.event).filter Event.isRead =
      ([visit].filter fun visit => visit.ReadsAccessor settings).map fun visit =>
        Event.read visit.node visit.key.raw := by
  by_cases reads : visit.ReadsAccessor settings
  · rw [(goes.uses reads).reads_eq]
    simp [reads]
  · rw [(goes.passes reads).1]
    simp [reads]

theorem Route.reads_eq (route : Route reentry settings expression node keys world visits result after) :
    ((visits.flatMap Visit.turns).map Turn.event).filter Event.isRead =
      (visits.filter fun visit => visit.ReadsAccessor settings).map fun visit =>
        Event.read visit.node visit.key.raw := by
  induction route with
  | ends => rfl
  | stops goes =>
      rw [List.flatMap_singleton]
      exact goes.reads_eq
  | @goes visit _ _ _ visits _ _ goes _ ih =>
      rw [List.flatMap_cons, List.map_append, List.filter_append, goes.reads_eq, ih, ← List.map_append,
        ← List.filter_append, List.singleton_append]

end

end
end Stencil
