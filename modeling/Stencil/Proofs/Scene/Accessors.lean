import Stencil.Proofs.Agreement.Accessors
import Stencil.Proofs.Scene.Region
import Stencil.Proofs.Settings.Loading

/-! Reading accessors in a scene. Under every name, private or not, a read gives what the scene holds, and
leaves a later scene. -/

namespace Stencil

open Run

section

variable {templates : Prop}

def Callee.Within (scene : Scene templates) : Callee → Prop
  | .member address _ | .routine address | .builtin address => scene.region address
  | .format address | .render address =>
    scene.region address ∧ ∃ template, scene.world.store[address]? = some (.template template)
  | .operation receiver _ => receiver.Within scene.region
  | .unbound _ _ | .selfless _ _ | .source _ | .rebind _ | .lacksArguments _ _ => True

def Reading.Within (scene : Scene templates) : Reading → Prop
  | .missing => True
  | .value found => found.Within scene.region
  | .callable callee => callee.Within scene

def Value.In (scene : Scene templates) (value : Value) : Prop :=
  value.Within scene.region

end

section

variable {templates : Prop} {scene later : Scene templates} {region : Region}

theorem Value.In.mono {value : Value} (reached : scene ≤ later) (within : value.In scene) :
    value.In later :=
  Value.Within.mono reached.1 within

theorem Callee.Within.mono {callee : Callee} (reached : scene ≤ later) (within : callee.Within scene) :
    callee.Within later := by
  have templated {address : Address} (inside : scene.region address ∧
      ∃ template, scene.world.store[address]? = some (.template template)) :
      later.region address ∧ ∃ template, later.world.store[address]? = some (.template template) := by
    obtain ⟨inside, template, found⟩ := inside
    exact ⟨reached.1 _ inside, template, reached.2.template found⟩
  cases callee with
  | member | routine | builtin => exact reached.1 _ within
  | format | render => exact templated within
  | operation => exact Value.Within.mono reached.1 within
  | _ => trivial

theorem plainReading {value : Value} (plain : value.isObject = false) :
    (Reading.value value).Within scene :=
  Value.within_of_immediate plain

theorem afterUse_values_subset (outcome : Outcome) : outcome.afterUse.values ⊆ outcome.values := by
  cases outcome with
  | gives value later =>
      cases later with
      | nil => exact List.Subset.refl _
      | cons next rest => exact List.subset_cons_self _ _
  | raises => exact List.Subset.refl _

theorem within_of_result {outcome : Outcome} (within : ∀ value ∈ outcome.values, value.Within region)
    {value : Value} (given : outcome.result = .ok value) : value.Within region := by
  cases outcome with
  | gives first later =>
      cases given
      exact within _ List.mem_cons_self
  | raises => cases given

theorem within_of_member {blueprint : Blueprint} (within : (Node.blueprint blueprint).Within region)
    {name : Text} {member : Member} (found : blueprint.find? name = some member) :
    ∀ value ∈ member.outcome.values, value.Within region :=
  fun value inside =>
    within value (List.mem_flatMap.mpr ⟨member, List.mem_of_find?_eq_some found, inside⟩)

theorem within_afterUse {blueprint : Blueprint} (within : (Node.blueprint blueprint).Within region)
    (name : Text) : (Node.blueprint (blueprint.afterUse name)).Within region := by
  intro value inside
  obtain ⟨_, changed, inside⟩ := List.mem_flatMap.mp inside
  obtain ⟨member, before, rfl⟩ := List.mem_map.mp changed
  refine within value (List.mem_flatMap.mpr ⟨member, before, ?_⟩)
  split at inside
  · exact afterUse_values_subset _ inside
  · exact inside

theorem useMember_leads {address : Address} (inside : scene.region address) (name : Text) :
    Leads scene Value.In (Run.useMember address name) := by
  refine Leads.bind (Leads.node? address) ?_
  rintro later reached _ rfl
  have inside := reached.1 _ inside
  split
  · rename_i blueprint found
    have whole := later.closed inside found
    split
    · rename_i member named
      refine Leads.bind_passes
        (Leads.setNode inside found (.blueprint _ _) (within_afterUse whole name)) ?_
      intro last further _
      refine Leads.ofExcept fun value given => ?_
      exact (within_of_result (within_of_member whole named) given).mono further.1
    · exact Leads.pure (Value.within_of_immediate rfl)
  · exact Leads.pure (Value.within_of_immediate rfl)

theorem useRoutine_leads {address : Address} (inside : scene.region address) :
    Leads scene Value.In (Run.useRoutine address) := by
  refine Leads.bind (Leads.node? address) ?_
  rintro later reached _ rfl
  have inside := reached.1 _ inside
  split
  · rename_i routine found
    have whole := later.closed inside found
    refine Leads.bind_passes (Leads.setNode inside found (.routine _ _) ?_) ?_
    · exact fun value member => whole value (afterUse_values_subset _ member)
    · intro last further _
      exact Leads.ofExcept fun value given => (within_of_result whole given).mono further.1
  · exact Leads.pure (Value.within_of_immediate rfl)

theorem reading_leads {value : Value} (within : value.In scene) :
    Leads scene Reading.Within (Run.reading value) := by
  unfold Run.reading
  split
  · rename_i address
    refine Leads.bind (Leads.node? address) ?_
    rintro later reached _ rfl
    have inside := reached.1 _ (within address rfl)
    split
    · exact Leads.pure inside
    · exact Leads.pure inside
    · exact Leads.pure (within.mono reached)
  · exact Leads.pure within

theorem fallback_within (record : Record) (name : Text) : (record.fallback name).Within scene := by
  unfold Record.fallback
  split
  · exact plainReading rfl
  · trivial

theorem value_useMember_leads {address : Address} (inside : scene.region address) (name : Text) :
    Leads scene Reading.Within (do return .value (← Run.useMember address name)) := by
  refine Leads.bind (useMember_leads inside name) ?_
  intro later _ value within
  exact Leads.pure within

theorem readRecordMember_leads {record : Record} (inside : scene.region record.blueprint) (name : Text)
    (role : Role) : Leads scene Reading.Within (record.readMember name role) := by
  cases role with
  | property =>
      refine Leads.tryCatch (value_useMember_leads inside name) ?_
      intro later _ failure
      split
      · exact Leads.pure (fallback_within record name)
      · exact Leads.throw failure
  | selfless => exact Leads.pure trivial
  | method | staticMethod | classMethod => exact Leads.pure inside
  | _ => exact value_useMember_leads inside name

theorem within_of_attribute {record : Record} (within : (Node.record record).Within region) {name : Text}
    {value : Value} (found : record.attribute? name = some value) : value.Within region := by
  refine within value (List.mem_cons_of_mem _ (List.mem_map.mpr ⟨(name, value), ?_, rfl⟩))
  obtain ⟨_, _, split, _⟩ := List.lookup_eq_some_iff.mp found
  rw [split]
  simp

theorem readRecordOwn_leads {record : Record} (within : (Node.record record).Within scene.region)
    (name : Text) {otherwise : Run Reading} (leads : Leads scene Reading.Within otherwise) :
    Leads scene Reading.Within (record.readOwn name otherwise) := by
  unfold Record.readOwn
  split
  · rename_i value found
    exact Leads.pure (within_of_attribute within found)
  · exact leads

theorem readUnnamed_within (record : Record) (name : Text) : (record.readUnnamed name).Within scene := by
  unfold Record.readUnnamed
  split
  · exact plainReading rfl
  · split
    · exact plainReading rfl
    · exact fallback_within record name

theorem readRecord_leads {record : Record} (within : (Node.record record).Within scene.region)
    (name : Text) : Leads scene Reading.Within (record.read name) := by
  refine Leads.bind (Leads.node? record.blueprint) ?_
  rintro later reached _ rfl
  have within := within.mono reached.1
  have inside : later.region record.blueprint := within _ List.mem_cons_self _ rfl
  split
  · split
    · split
      · exact readRecordMember_leads inside name .property
      · exact readRecordOwn_leads within name (readRecordMember_leads inside name _)
    · split
      · exact Leads.pure ((Value.within_object _).mpr inside)
      · exact readRecordOwn_leads within name (Leads.pure (readUnnamed_within record name))
  · exact readRecordOwn_leads within name (Leads.pure (fallback_within record name))

theorem readBlueprint_leads (blueprint : Blueprint) {address : Address} (inside : scene.region address)
    (name : Text) : Leads scene Reading.Within (blueprint.read address name) := by
  have member (found : Member) : Leads scene Reading.Within (Blueprint.readMember address found) := by
    unfold Blueprint.readMember
    split
    · exact value_useMember_leads inside found.name
    · exact Leads.pure (plainReading rfl)
    · exact Leads.pure trivial
    · exact Leads.pure inside
    · exact Leads.pure inside
    · exact Leads.pure inside
  unfold Blueprint.read
  split
  · exact Leads.pure (plainReading rfl)
  · split
    · exact Leads.pure (plainReading rfl)
    · split
      · exact Leads.pure (plainReading rfl)
      · split
        · exact member _
        · split
          · exact Leads.pure (plainReading rfl)
          · exact Leads.pure trivial

theorem inForce_passes (own : Option Settings) : Passes scene (Settings.inForce own) := by
  cases own with
  | some settings => exact Leads.pure trivial
  | none =>
      cases known : scene.world.settings with
      | some settings =>
          refine ⟨scene, le_refl _, ?_, fun _ _ => trivial⟩
          rw [Settings.outcome_inForce_of_known known]
      | none =>
          let settings := Settings.ofEnvironment scene.world.environment
          let loaded : World :=
            { scene.world.noting [Settings.told settings] with settings := some settings }
          refine ⟨scene.moved loaded rfl, ⟨le_refl _, fun found => ⟨_, found, .same _⟩, rfl,
            [Settings.told settings], rfl, ?_⟩,
            congrArg Prod.snd (Settings.outcome_inForce_of_unknown known), fun _ _ => trivial⟩
          simp [Settings.told, Event.isReport]

theorem readTemplate_leads {template : Template} {address : Address} (inside : scene.region address)
    (found : scene.world.store[address]? = some (.template template)) (name : Text) :
    Leads scene Reading.Within (template.read address name) := by
  have held : (Reading.value template.binding).Within scene :=
    scene.closed inside found _ List.mem_cons_self
  have itself : scene.region address ∧
      ∃ template, scene.world.store[address]? = some (.template template) := ⟨inside, template, found⟩
  unfold Template.read
  split
  · exact Leads.pure (plainReading rfl)
  split
  · exact Leads.pure (plainReading rfl)
  split
  · exact Leads.pure held
  split
  · refine Leads.bind_passes (inForce_passes template.settings) ?_
    intro _ _ settings
    exact Leads.pure (plainReading rfl)
  split
  · refine Leads.pure (plainReading ?_)
    unfold Template.ownSettings
    split <;> rfl
  split
  · exact Leads.pure itself
  split
  · exact Leads.pure itself
  split
  · exact Leads.pure trivial
  · exact Leads.pure trivial

theorem readBuiltin_within {routine : Builtin} (within : (Node.builtin routine).Within scene.region)
    (name : Text) : (routine.read name).Within scene := by
  unfold Builtin.read
  split
  · exact plainReading rfl
  split
  · exact plainReading rfl
  split
  · exact plainReading rfl
  split
  · refine plainReading ?_
    split <;> rfl
  split
  · split
    · rename_i receiver known
      exact within receiver (Option.mem_toList.mpr known)
    · trivial
  · trivial

theorem readNode_leads {node : Node} {address : Address} (inside : scene.region address)
    (found : scene.world.store[address]? = some node) (name : Text) :
    Leads scene Reading.Within (node.read address name) := by
  have whole := scene.closed inside found
  cases node with
  | record record => exact readRecord_leads whole name
  | blueprint blueprint => exact readBlueprint_leads blueprint inside name
  | template template => exact readTemplate_leads inside found name
  | routine routine =>
      refine Leads.pure ?_
      unfold Routine.read
      split
      · exact plainReading rfl
      · trivial
  | builtin routine => exact Leads.pure (readBuiltin_within whole name)
  | _ => exact Leads.pure trivial

theorem ofFields_within {fields : List (String × Value)}
    (plain : ∀ field ∈ fields, field.2.isObject = false) (name : Text) :
    (Reading.ofFields fields name).Within scene := by
  unfold Reading.ofFields
  cases found : fields.find? (·.1.toList = name) with
  | none => trivial
  | some field => exact plainReading (plain field (List.mem_of_find?_eq_some found))

theorem ofRoutine_within {receiver : Value} (within : receiver.In scene) (name : Text)
    (routine : Option Routines) : (Reading.ofRoutine receiver name routine).Within scene := by
  cases routine with
  | none => trivial
  | some routine =>
      cases routine with
      | needsArguments => trivial
      | runs operation => exact within

theorem allocate_plain {node : Node} (plain : ∀ value ∈ node.values, value.isObject = false)
    (sort : node.kind ≠ .record) : Leads scene Value.In (Run.allocate node) := by
  refine Leads.allocate ?_ ?_
  · intro value member
    exact Value.within_of_immediate (plain value member)
  · rintro template rfl
    exact absurd rfl sort

theorem read_allocate_leads {node : Node} (plain : ∀ value ∈ node.values, value.isObject = false)
    (sort : node.kind ≠ .record) :
    Leads scene Reading.Within (do return .value (← Run.allocate node)) := by
  refine Leads.bind (allocate_plain plain sort) ?_
  intro _ _ _ within
  exact Leads.pure within

theorem readPresetCall_leads (name : String) :
    Leads scene Reading.Within (Run.readPresetCall name) := by
  unfold Run.readPresetCall
  split
  · exact Leads.pure (plainReading rfl)
  · exact read_allocate_leads (by simp [Node.values]) nofun
  · exact read_allocate_leads (by simp [Node.values]) nofun
  · exact Leads.pure trivial

theorem readModel_leads (name : String) : Leads scene Reading.Within (Run.readModel name) := by
  unfold Run.readModel
  split
  · exact read_allocate_leads (by simp [Node.values, Value.isObject]) (by simp [Node.kind])
  · exact read_allocate_leads (by simp [Node.values]) (by simp [Node.kind])
  · exact Leads.pure trivial

theorem readPattern_leads (source : Text) (name : String) :
    Leads scene Reading.Within (Pattern.readField source name) := by
  unfold Pattern.readField
  split
  · exact Leads.pure (plainReading rfl)
  · exact Leads.pure (plainReading rfl)
  · exact Leads.pure (plainReading rfl)
  · refine read_allocate_leads ?_ nofun
    intro value member
    obtain ⟨_, named, inside⟩ := List.mem_flatMap.mp member
    obtain ⟨_, _, rfl⟩ := List.mem_map.mp named
    rcases List.mem_pair.mp inside with rfl | rfl <;> rfl
  · exact Leads.pure trivial

theorem readStream_within (stream : Stream) (name : String) {reading : Reading}
    (given : stream.readField name = .ok reading) : reading.Within scene := by
  unfold Stream.readField at given
  split at given
  · cases given
    exact plainReading rfl
  · cases given
    split
    · trivial
    · exact plainReading rfl
  · cases given
    split
    · trivial
    · exact plainReading rfl
  · split at given
    · cases given
      trivial
    · split at given
      · cases given
      · cases given
        exact plainReading rfl
  · split at given
    · cases given
      trivial
    · split at given
      · cases given
      · cases given
        exact plainReading rfl
  · cases given
    trivial

theorem readNodeField_leads (node : Node) (name : String) :
    Leads scene Reading.Within (node.readField name) := by
  cases node with
  | stream stream => exact Leads.ofExcept fun reading given => readStream_within stream name given
  | generator finished =>
      simp only [Node.readField]
      split
      · exact Leads.pure (plainReading rfl)
      · exact Leads.pure (plainReading rfl)
      · exact Leads.pure (plainReading rfl)
      · split
        · exact Leads.pure (plainReading rfl)
        · exact Leads.pure trivial
      · exact Leads.pure trivial
  | _ => exact Leads.pure trivial

theorem readConstant_within (name : Text) : (Kind.readConstant name).Within scene := by
  unfold Kind.readConstant
  split
  · exact plainReading rfl
  · trivial

theorem readClosedType_leads (type : ClosedType) (name : Text) :
    Leads scene Reading.Within (type.read name) := by
  have kept (stage : Scene templates) : Leads stage Reading.Within (type.readKept name) := by
    unfold ClosedType.readKept
    split
    · exact Leads.pure (readConstant_within name)
    · exact Leads.pure (ofFields_within (by simp [Value.isObject]) name)
    · exact readModel_leads _
    · exact Leads.pure trivial
  unfold ClosedType.read
  dsimp only
  split
  · exact Leads.pure (plainReading rfl)
  split
  · exact Leads.pure (plainReading rfl)
  split
  · exact Leads.pure (plainReading (isObject_documentation type))
  split
  · exact Leads.pure (plainReading rfl)
  split
  · exact Leads.pure (plainReading rfl)
  · refine Leads.bind (kept scene) ?_
    intro later _ found within
    split
    · exact Leads.pure (ofRoutine_within (Value.within_of_immediate rfl) name _)
    · exact Leads.pure within

theorem readField_leads {value : Value} (name : Text) :
    Leads scene Reading.Within (value.readField name) := by
  unfold Value.readField
  dsimp only
  split
  · exact readPattern_leads _ _
  · exact readPresetCall_leads _
  · split
    · exact Leads.pure (plainReading rfl)
    · exact Leads.pure trivial
  · split
    · exact Leads.pure (plainReading rfl)
    · exact Leads.pure (plainReading rfl)
    · exact Leads.pure (readConstant_within name)
  · split
    · exact Leads.pure (plainReading rfl)
    · exact readModel_leads _
  · exact Leads.pure (ofFields_within (by simp [Value.isObject]) name)
  · refine Leads.bind (Leads.node? _) ?_
    rintro later _ _ rfl
    split
    · exact readNodeField_leads _ _
    · exact Leads.pure trivial
  · exact Leads.pure trivial

theorem readShared_leads {value : Value} (within : value.In scene) (name : Text) :
    Leads scene Reading.Within (value.readShared name) := by
  refine Leads.bind Leads.store ?_
  rintro later reached _ rfl
  split
  · exact Leads.pure trivial
  · rename_i type _
    split
    · exact Leads.pure (plainReading rfl)
    split
    · exact Leads.pure (plainReading (isObject_documentation_of_values type))
    split
    · exact Leads.pure (plainReading rfl)
    · refine Leads.bind (readField_leads name) ?_
      intro last further found held
      have within := within.mono (le_trans reached further)
      split
      · split
        · exact Leads.pure (ofRoutine_within within name _)
        · exact Leads.pure (ofRoutine_within within name _)
      · exact Leads.pure held

theorem readOwn_leads {value : Value} (within : value.In scene) (name : Text) :
    Leads scene Reading.Within (value.readOwn name) := by
  unfold Value.readOwn
  split
  · refine Leads.pure ?_
    unfold Segment.read
    split
    · trivial
    · split
      · exact ofFields_within (by simp [Value.isObject]) name
      · exact ofFields_within (by simp [Value.isObject]) name
  · exact Leads.pure (ofFields_within (by simp [Value.isObject]) name)
  · exact Leads.pure (ofFields_within (by simp [Value.isObject]) name)
  · exact Leads.pure (ofFields_within (by simp [Value.isObject]) name)
  · exact Leads.pure (ofFields_within (by simp [Value.isObject]) name)
  · exact readClosedType_leads _ name
  · refine Leads.bind (Leads.node? _) ?_
    rintro later reached _ rfl
    split
    · rename_i found
      exact readNode_leads (reached.1 _ (within _ rfl)) found name
    · exact Leads.pure trivial
  · exact Leads.pure trivial

theorem read_leads {value : Value} (within : value.In scene) (name : Text) :
    Leads scene Reading.Within (value.read name) := by
  refine Leads.bind (readOwn_leads within name) ?_
  intro later reached found held
  split
  · exact readShared_leads (within.mono reached) name
  · exact Leads.pure held

theorem lookUp_leads {value : Value} (within : value.In scene) (name : Text) :
    Leads scene Reading.Within (value.lookUp name) := by
  refine Leads.tryCatch (read_leads within name) ?_
  intro later _ failure
  split
  · exact Leads.pure trivial
  · exact Leads.throw failure

theorem settle_leads {reading : Reading} (within : reading.Within scene) :
    Leads scene Reading.Within reading.settle := by
  cases reading with
  | value found => exact reading_leads within
  | missing => exact Leads.pure within
  | callable callee => exact Leads.pure within

end
end Stencil
