import Stencil.Accessor.Scripted
import Stencil.Proofs.Settings.Loading

/-! Runs that take no notice of the journal. Whatever has been told before, reading and calling accessors
gives the same and does the same, and a process default that is known stays. -/

namespace Stencil

open Run

def Event.isFinding : Event → Bool
  | .log .debug .resolver _ => true
  | _ => false

/-- Two worlds that are told apart at most by lines about what expressions have found. -/
structure World.Resembles (one other : World) : Prop where
  store : one.store = other.store
  environment : one.environment = other.environment
  settings : one.settings = other.settings
  strict : one.strict = other.strict
  limit : one.limit = other.limit
  journal : one.journal.filter (!·.isFinding) = other.journal.filter (!·.isFinding)

structure Known where
  settings : Option Settings

instance : Preorder Known where
  le before after := ∀ settings, before.settings = some settings → after.settings = some settings
  le_refl _ _ known := known
  le_trans _ _ _ before after settings known := after settings (before settings known)

namespace Run

def Resembling (known : Known) (one other : World) : Prop :=
  one.Resembles other ∧ one.settings = known.settings

/-- From worlds that resemble each other a run comes to the same end, in worlds that do so again. -/
def IgnoresJournal {α : Type} (action : Run α) : Prop :=
  ∀ known, Alike Resembling known action action

end Run

section

variable {α β γ : Type} {one other : World}

namespace World.Resembles

theorem refl (world : World) : world.Resembles world :=
  ⟨rfl, rfl, rfl, rfl, rfl, rfl⟩

theorem symm (resembles : one.Resembles other) : other.Resembles one :=
  ⟨resembles.store.symm, resembles.environment.symm, resembles.settings.symm, resembles.strict.symm,
    resembles.limit.symm, resembles.journal.symm⟩

theorem noting (resembles : one.Resembles other) (event : Event) :
    (one.noting [event]).Resembles (other.noting [event]) :=
  { resembles with
    journal := by
      rw [World.noting, World.noting, List.filter_append, List.filter_append, resembles.journal] }

theorem noting_finding (resembles : one.Resembles other) {event : Event}
    (finding : event.isFinding = true) : one.Resembles (other.noting [event]) :=
  { resembles with
    journal := by
      rw [resembles.journal, World.noting, List.filter_append]
      simp [finding] }

end World.Resembles

namespace Run.IgnoresJournal

theorem pure (value : α) : IgnoresJournal (Pure.pure value) :=
  fun _ => Relates.pure rfl

theorem throw (failure : Failure) : IgnoresJournal (MonadExcept.throw failure : Run α) :=
  fun _ => Relates.throw failure

theorem ofExcept (result : Except Failure α) : IgnoresJournal (Run.ofExcept result) :=
  fun _ => Alike.ofExcept rfl

theorem bind {action : Run α} {next : α → Run β} (head : IgnoresJournal action)
    (tail : ∀ value, IgnoresJournal (next value)) : IgnoresJournal (action >>= next) := by
  intro known
  refine Relates.bind (head known) ?_
  rintro later _ value _ rfl
  exact tail value later

theorem tryCatch {action : Run α} {handler : Failure → Run α} (body : IgnoresJournal action)
    (rescue : ∀ failure, IgnoresJournal (handler failure)) :
    IgnoresJournal (MonadExcept.tryCatch action handler) :=
  fun known => Relates.tryCatch (body known) fun later _ failure => rescue failure later

theorem mapM {each : α → Run β} (ignores : ∀ item, IgnoresJournal (each item)) (items : List α) :
    IgnoresJournal (items.mapM each) := by
  induction items with
  | nil =>
      rw [List.mapM_nil]
      exact pure []
  | cons item rest ih =>
      rw [List.mapM_cons]
      exact bind (ignores item) fun _ => bind ih fun _ => pure _

theorem foldlM {step : α → γ → Run α} (ignores : ∀ value item, IgnoresJournal (step value item))
    (items : List γ) : ∀ first, IgnoresJournal (items.foldlM step first) := by
  induction items with
  | nil =>
      intro first
      rw [List.foldlM_nil]
      exact pure first
  | cons item rest ih =>
      intro first
      rw [List.foldlM_cons]
      exact bind (ignores first item) ih

theorem forM {each : α → Run Unit} (ignores : ∀ item, IgnoresJournal (each item)) (items : List α) :
    IgnoresJournal (items.forM each) :=
  fun _ => Alike.forM items fun item _ later _ => ignores item later

theorem world_bind {next : World → Run α}
    (same : ∀ known one other, Resembling known one other →
      Alike Resembling known (next one) (next other)) :
    IgnoresJournal (Run.world >>= next) :=
  fun known one other resembling => same known one other resembling one other resembling

theorem store : IgnoresJournal Run.store := by
  intro known one other resembling
  rw [outcome_store, outcome_store, resembling.1.store]
  exact ⟨known, le_refl _, resembling, .ok rfl⟩

theorem node? (address : Address) : IgnoresJournal (Run.node? address) :=
  bind store fun _ => pure _

theorem note (event : Event) : IgnoresJournal (Run.note event) :=
  fun known _ _ ⟨resembles, default⟩ =>
    ⟨known, le_refl _, ⟨resembles.noting event, default⟩, .ok rfl⟩

theorem setNode (address : Address) (node : Node) : IgnoresJournal (Run.setNode address node) :=
  fun known _ _ ⟨resembles, default⟩ =>
    ⟨known, le_refl _,
      ⟨{ resembles with store := congrArg (·.setIfInBounds address node) resembles.store }, default⟩,
      .ok rfl⟩

theorem allocate (node : Node) : IgnoresJournal (Run.allocate node) := by
  refine bind store fun store => bind ?_ fun _ => pure _
  intro known one other ⟨resembles, default⟩
  exact ⟨known, le_refl _,
    ⟨{ resembles with store := congrArg (·.push node) resembles.store }, default⟩, .ok rfl⟩

end Run.IgnoresJournal

open Run.IgnoresJournal (bind pure throw)

theorem inForce_ignoresJournal (own : Option Settings) : IgnoresJournal (Settings.inForce own) := by
  cases own with
  | some settings => exact pure settings
  | none =>
      intro known one other ⟨resembles, default⟩
      cases held : known.settings with
      | some settings =>
          have first := default.trans held
          rw [Settings.outcome_inForce_of_known first,
            Settings.outcome_inForce_of_known (resembles.settings.symm.trans first)]
          exact ⟨known, le_refl _, ⟨resembles, default⟩, .ok rfl⟩
      | none =>
          have first := default.trans held
          rw [Settings.outcome_inForce_of_unknown first,
            Settings.outcome_inForce_of_unknown (resembles.settings.symm.trans first),
            ← resembles.environment]
          have grown : known ≤ ⟨some (Settings.ofEnvironment one.environment)⟩ :=
            fun _ given => by simp [held] at given
          exact ⟨_, grown, ⟨{ resembles.noting _ with settings := rfl }, rfl⟩, .ok rfl⟩

theorem useMember_ignoresJournal (address : Address) (name : Text) :
    IgnoresJournal (Run.useMember address name) := by
  refine bind (.node? address) fun node => ?_
  split
  · split
    · exact bind (.setNode _ _) fun _ => .ofExcept _
    · exact pure _
  · exact pure _

theorem useRoutine_ignoresJournal (address : Address) : IgnoresJournal (Run.useRoutine address) := by
  refine bind (.node? address) fun node => ?_
  split
  · exact bind (.setNode _ _) fun _ => .ofExcept _
  · exact pure _

theorem reading_ignoresJournal (value : Value) : IgnoresJournal (Run.reading value) := by
  unfold Run.reading
  split
  · refine bind (.node? _) fun node => ?_
    split <;> exact pure _
  · exact pure _

theorem readProperty_ignoresJournal (record : Record) (name : Text) :
    IgnoresJournal (record.readProperty name) := by
  refine .tryCatch (bind (useMember_ignoresJournal _ name) fun _ => pure _) fun failure => ?_
  split
  · exact pure _
  · exact throw failure

theorem readRecordMember_ignoresJournal (record : Record) (name : Text) (role : Role) :
    IgnoresJournal (record.readMember name role) := by
  cases role with
  | property => exact readProperty_ignoresJournal record name
  | selfless | method | staticMethod | classMethod => exact pure _
  | _ => exact bind (useMember_ignoresJournal _ name) fun _ => pure _

theorem readRecordOwn_ignoresJournal (record : Record) (name : Text) {otherwise : Run Reading}
    (ignores : IgnoresJournal otherwise) : IgnoresJournal (record.readOwn name otherwise) := by
  unfold Record.readOwn
  split
  · exact pure _
  · exact ignores

theorem readRecord_ignoresJournal (record : Record) (name : Text) :
    IgnoresJournal (record.read name) := by
  refine bind (.node? _) fun node => ?_
  split
  · split
    · split
      · exact readProperty_ignoresJournal record name
      · exact readRecordOwn_ignoresJournal record name (readRecordMember_ignoresJournal record name _)
    · split
      · exact pure _
      · exact readRecordOwn_ignoresJournal record name (pure _)
  · exact readRecordOwn_ignoresJournal record name (pure _)

theorem readBlueprint_ignoresJournal (blueprint : Blueprint) (address : Address) (name : Text) :
    IgnoresJournal (blueprint.read address name) := by
  have member (found : Member) : IgnoresJournal (Blueprint.readMember address found) := by
    unfold Blueprint.readMember
    split
    · exact bind (useMember_ignoresJournal _ _) fun _ => pure _
    all_goals exact pure _
  unfold Blueprint.read
  split
  · exact pure _
  split
  · exact pure _
  split
  · exact pure _
  split
  · exact member _
  · split <;> exact pure _

theorem readTemplate_ignoresJournal (template : Template) (address : Address) (name : Text) :
    IgnoresJournal (template.read address name) := by
  unfold Template.read
  split
  · exact pure _
  split
  · exact pure _
  split
  · exact pure _
  split
  · exact bind (inForce_ignoresJournal _) fun _ => pure _
  split
  · exact pure _
  split
  · exact pure _
  split
  · exact pure _
  split <;> exact pure _

theorem readNode_ignoresJournal (node : Node) (address : Address) (name : Text) :
    IgnoresJournal (node.read address name) := by
  cases node with
  | record record => exact readRecord_ignoresJournal record name
  | blueprint blueprint => exact readBlueprint_ignoresJournal blueprint address name
  | template template => exact readTemplate_ignoresJournal template address name
  | _ => exact pure _

theorem read_allocate_ignoresJournal (node : Node) :
    IgnoresJournal (do return Reading.value (← Run.allocate node)) :=
  bind (.allocate node) fun _ => pure _

theorem readPresetCall_ignoresJournal (name : String) : IgnoresJournal (Run.readPresetCall name) := by
  unfold Run.readPresetCall
  split
  · exact pure _
  · exact read_allocate_ignoresJournal _
  · exact read_allocate_ignoresJournal _
  · exact pure _

theorem readModel_ignoresJournal (name : String) : IgnoresJournal (Run.readModel name) := by
  unfold Run.readModel
  split
  · exact read_allocate_ignoresJournal _
  · exact read_allocate_ignoresJournal _
  · exact pure _

theorem readPattern_ignoresJournal (source : Text) (name : String) :
    IgnoresJournal (Pattern.readField source name) := by
  unfold Pattern.readField
  split
  · exact pure _
  · exact pure _
  · exact pure _
  · exact read_allocate_ignoresJournal _
  · exact pure _

theorem readNodeField_ignoresJournal (node : Node) (name : String) :
    IgnoresJournal (node.readField name) := by
  cases node with
  | stream stream => exact .ofExcept _
  | generator finished =>
      simp only [Node.readField]
      split <;> exact pure _
  | _ => exact pure _

theorem readClosedType_ignoresJournal (type : ClosedType) (name : Text) :
    IgnoresJournal (type.read name) := by
  have kept : IgnoresJournal (type.readKept name) := by
    unfold ClosedType.readKept
    split
    · exact pure _
    · exact pure _
    · exact readModel_ignoresJournal _
    · exact pure _
  unfold ClosedType.read
  dsimp only
  split
  · exact pure _
  split
  · exact pure _
  split
  · exact pure _
  split
  · exact pure _
  split
  · exact pure _
  · refine bind kept fun found => ?_
    split <;> exact pure _

theorem readField_ignoresJournal (value : Value) (name : Text) :
    IgnoresJournal (value.readField name) := by
  unfold Value.readField
  dsimp only
  split
  · exact readPattern_ignoresJournal _ _
  · exact readPresetCall_ignoresJournal _
  · exact pure _
  · split <;> exact pure _
  · split
    · exact pure _
    · exact readModel_ignoresJournal _
  · exact pure _
  · refine bind (.node? _) fun node => ?_
    split
    · exact readNodeField_ignoresJournal _ _
    · exact pure _
  · exact pure _

theorem readShared_ignoresJournal (value : Value) (name : Text) :
    IgnoresJournal (value.readShared name) := by
  refine bind .store fun store => ?_
  split
  · exact pure _
  · split
    · exact pure _
    split
    · exact pure _
    split
    · exact pure _
    · refine bind (readField_ignoresJournal value name) fun found => ?_
      split
      · split <;> exact pure _
      · exact pure _

theorem readOwn_ignoresJournal (value : Value) (name : Text) :
    IgnoresJournal (value.readOwn name) := by
  cases value with
  | closedType type => exact readClosedType_ignoresJournal type name
  | object address =>
      refine bind (.node? address) fun node => ?_
      split
      · exact readNode_ignoresJournal _ address name
      · exact pure _
  | _ => exact pure _

theorem read_ignoresJournal (value : Value) (name : Text) : IgnoresJournal (value.read name) := by
  refine bind (readOwn_ignoresJournal value name) fun found => ?_
  split
  · exact readShared_ignoresJournal value name
  · exact pure _

theorem operateOpen_ignoresJournal (stream : Stream) (operation : StreamOperation) :
    IgnoresJournal (stream.operateOpen operation) := by
  cases operation with
  | detach | number => exact throw _
  | readLines => exact bind (.allocate _) fun _ => pure _
  | _ => exact pure _

theorem operateStream_ignoresJournal (stream : Stream) (operation : StreamOperation) :
    IgnoresJournal (stream.operate operation) := by
  have opened := operateOpen_ignoresJournal stream operation
  unfold Stream.operate
  split
  · exact opened
  · exact opened
  · exact opened
  · split
    · exact throw _
    · exact opened
  · split
    · exact throw _
    · exact opened

theorem operateSettings_ignoresJournal (settings : Settings) (operation : SettingsOperation) :
    IgnoresJournal (settings.operate operation) := by
  cases operation with
  | toMapping => exact .allocate _
  | _ => exact pure _

theorem operateSet_ignoresJournal (address : Address) (frozen : Bool) (items : List Value)
    (operation : Operation) : IgnoresJournal (Run.operateSet address frozen items operation) := by
  cases operation with
  | copySet => exact .allocate _
  | clearSet => exact bind (.setNode _ _) fun _ => pure _
  | takeFromSet =>
      cases items with
      | nil => exact throw _
      | cons item others => exact bind (.setNode _ _) fun _ => pure item
  | _ => exact pure _

theorem operateNode_ignoresJournal (address : Address) (node : Node) (operation : Operation) :
    IgnoresJournal (Run.operateNode address node operation) := by
  unfold Run.operateNode
  split
  · exact operateSet_ignoresJournal _ _ _ _
  · exact bind (operateStream_ignoresJournal _ _) fun _ => bind (.setNode _ _) fun _ => pure _
  · exact bind (.setNode _ _) fun _ => pure _
  · exact pure _

theorem operate_ignoresJournal (receiver : Value) (operation : Operation) :
    IgnoresJournal (Run.operate receiver operation) := by
  unfold Run.operate
  split
  · exact throw _
  · unfold Run.lineageOf
    split <;> exact .allocate _
  · exact operateSettings_ignoresJournal _ _
  · exact operateSettings_ignoresJournal _ _
  · refine bind (.node? _) fun node => ?_
    split
    · exact operateNode_ignoresJournal _ _ _
    · exact pure _
  · exact pure _

theorem callBuiltin_ignoresJournal (routine : Builtin) : IgnoresJournal routine.call := by
  cases routine with
  | upper => exact pure _
  | split => exact .allocate _
  | pop receiver =>
      refine bind (.node? receiver) fun node => ?_
      split
      · split
        · exact bind (.setNode _ _) fun _ => pure _
        · exact throw _
      · exact throw _
  | copy receiver =>
      refine bind (.node? receiver) fun node => ?_
      split
      · exact .allocate _
      · exact .allocate _
      · exact pure _
  | _ => exact throw _

structure Reentry.IgnoresJournal (reentry : Reentry) : Prop where
  format : ∀ address, Run.IgnoresJournal (reentry.format address)
  render : ∀ address, Run.IgnoresJournal (reentry.render address)

variable {reentry : Reentry}

theorem body_ignoresJournal (ignores : reentry.IgnoresJournal) (callee : Callee) :
    IgnoresJournal (callee.body reentry) := by
  cases callee with
  | member address name => exact useMember_ignoresJournal address name
  | selfless | unbound | rebind | lacksArguments => exact throw _
  | operation receiver step => exact operate_ignoresJournal receiver step
  | routine address => exact useRoutine_ignoresJournal address
  | builtin address =>
      refine bind (.node? address) fun node => ?_
      split
      · exact callBuiltin_ignoresJournal _
      · exact pure _
  | source => exact pure _
  | format address => exact bind (ignores.format address) fun _ => pure _
  | render address => exact bind (ignores.render address) fun _ => pure _

theorem lookUp_ignoresJournal (value : Value) (name : Text) : IgnoresJournal (value.lookUp name) := by
  refine .tryCatch (read_ignoresJournal value name) fun failure => ?_
  split
  · exact pure _
  · exact throw failure

theorem settle_ignoresJournal (reading : Reading) : IgnoresJournal reading.settle := by
  cases reading with
  | value found => exact reading_ignoresJournal found
  | _ => exact pure _

theorem access_ignoresJournal (ignores : reentry.IgnoresJournal) (value : Value) (name : Text) :
    IgnoresJournal (value.access reentry name) := by
  refine bind (.note _) fun _ => bind (lookUp_ignoresJournal value name) fun reading => ?_
  refine bind (settle_ignoresJournal reading) fun found => ?_
  split
  · exact pure _
  · exact pure _
  · refine bind .store fun store => ?_
    split
    · exact bind (.note _) fun _ => bind (body_ignoresJournal ignores _) fun _ => pure _
    · exact pure _

end
end Stencil
