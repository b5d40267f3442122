import Stencil.Proofs.Agreement.Texts

/-! Reading and calling accessors in two worlds that agree. A public name gives what agrees in both, and
leaves worlds that agree again. -/

namespace Stencil

open Run

def Event.isTold : Event → Bool
  | .log _ _ _ | .warning _ _ _ => true
  | .read _ _ | .called _ => false

structure World.Agrees (paired : Pairing) (first second : World) : Prop where
  stores : Store.Agrees paired first.store second.store
  strict : first.strict = second.strict
  limit : first.limit = second.limit
  told : first.journal.filter Event.isTold = second.journal.filter Event.isTold

/-- A member is called under a public name. What a call that lacks arguments is about cannot be seen. -/
inductive Callee.Agrees (paired : Pairing) : Callee → Callee → Prop
  | member {first second} (name : Text) :
      paired first second → isPrivate name = false →
      Agrees paired (.member first name) (.member second name)
  | unbound (first second : Address) (name other : Text) :
      Agrees paired (.unbound first name) (.unbound second other)
  | selfless (typeName name : Text) : Agrees paired (.selfless typeName name) (.selfless typeName name)
  | routine {first second} : paired first second → Agrees paired (.routine first) (.routine second)
  | builtin {first second} : paired first second → Agrees paired (.builtin first) (.builtin second)
  | source (segment : Segment) : Agrees paired (.source segment) (.source segment)
  | operation {first second} (operation : Operation) :
      first.Agrees paired second →
      Agrees paired (.operation first operation) (.operation second operation)
  | lacksArguments (first second : Value) (name other : Text) :
      Agrees paired (.lacksArguments first name) (.lacksArguments second other)

inductive Reading.Agrees (paired : Pairing) : Reading → Reading → Prop
  | missing : Agrees paired .missing .missing
  | value {first second} : first.Agrees paired second → Agrees paired (.value first) (.value second)
  | callable {first second} :
      first.Agrees paired second → Agrees paired (.callable first) (.callable second)

inductive Accessor.Agrees (paired : Pairing) : Accessor → Accessor → Prop
  | missing : Agrees paired .missing .missing
  | needsArguments : Agrees paired .needsArguments .needsArguments
  | value {first second} : first.Agrees paired second → Agrees paired (.value first) (.value second)

section

variable {paired : Pairing}

theorem Callee.Agrees.mono {wider : Pairing} (grown : paired ≤ wider) {first second : Callee}
    (agree : first.Agrees paired second) : first.Agrees wider second := by
  cases agree with
  | member name related seen => exact .member name (grown _ _ related) seen
  | routine related => exact .routine (grown _ _ related)
  | builtin related => exact .builtin (grown _ _ related)
  | operation operation agree => exact .operation operation (agree.mono grown)
  | _ => constructor

theorem store_agrees : Relates World.Agrees paired Store.Agrees Run.store Run.store :=
  fun _ _ agree => ⟨paired, le_refl _, agree, .ok agree.stores⟩

theorem node?_agrees {address another : Address} (related : paired address another) :
    Relates World.Agrees paired
      (fun later left right =>
        ∃ node other, left = some node ∧ right = some other ∧ node.Agrees later other)
      (Run.node? address) (Run.node? another) :=
  fun _ _ agree => ⟨paired, le_refl _, agree, .ok (agree.stores.nodes related)⟩

theorem setNode_alike {address another : Address} {node other : Node}
    (related : paired address another) (nodes : node.Agrees paired other) :
    Alike World.Agrees paired (Run.setNode address node) (Run.setNode another other) :=
  fun _ _ agree =>
    ⟨paired, le_refl _, { agree with stores := agree.stores.set related nodes }, .ok rfl⟩

theorem allocate_agrees {node other : Node} (nodes : node.Agrees paired other) :
    Relates World.Agrees paired Value.Agrees (Run.allocate node) (Run.allocate other) :=
  -- the new objects become a pair, which is why the pairing has to grow
  fun first second agree =>
    ⟨paired.extend first.store.size second.store.size, paired.le_extend _ _,
      { agree with stores := agree.stores.push nodes }, .ok (.object (paired.extend_self _ _))⟩

theorem note_alike (event : Event) : Alike World.Agrees paired (Run.note event) (Run.note event) :=
  fun _ _ agree =>
    ⟨paired, le_refl _, { agree with told := by simp [outcome_note, agree.told] }, .ok rfl⟩

theorem note_alike_of_untold {event other : Event} (quiet : event.isTold = false)
    (still : other.isTold = false) : Alike World.Agrees paired (Run.note event) (Run.note other) :=
  fun _ _ agree =>
    ⟨paired, le_refl _,
      { agree with told := by simp [outcome_note, quiet, still, agree.told] }, .ok rfl⟩

theorem coerce_alike (reentry another : Reentry) {first second : Value}
    (agree : first.Agrees paired second) :
    Alike World.Agrees paired (first.coerce reentry) (second.coerce another) := by
  intro world other worlds
  obtain ⟨result, here, there⟩ := outcome_coerce worlds.stores worlds.limit reentry another agree
  rw [here, there]
  exact ⟨paired, le_refl _, worlds, Corresponds.refl (fun _ => rfl) result⟩

theorem Outcome.Agrees.afterUse {first second : Outcome} (agree : first.Agrees paired second) :
    first.afterUse.Agrees paired second.afterUse := by
  cases agree with
  | gives head later =>
      cases later with
      | nil => exact .gives head .nil
      | cons next rest => exact .gives next rest
  | raises fault message => exact .raises fault message

theorem Outcome.Agrees.result {first second : Outcome} (agree : first.Agrees paired second) :
    Corresponds (Value.Agrees paired) first.result second.result := by
  cases agree with
  | gives head later => exact .ok head
  | raises fault message => exact .error _

theorem find?_afterUse (blueprint : Blueprint) (name other : Text) :
    (blueprint.afterUse name).find? other = (blueprint.find? other).map fun member =>
      if member.name = name then { member with outcome := member.outcome.afterUse } else member := by
  simp only [Blueprint.find?, Blueprint.afterUse, List.find?_map]
  congr 1
  congr 1
  funext member
  simp only [Function.comp_apply]
  split <;> rfl

theorem Blueprint.Agrees.afterUse {first second : Blueprint} (agree : first.Agrees paired second)
    (name : Text) : (first.afterUse name).Agrees paired (second.afterUse name) where
  typeName := agree.typeName
  members := by
    intro other seen
    rw [find?_afterUse, find?_afterUse]
    rcases cases_of_rel (agree.members other seen) with
      ⟨here, there⟩ | ⟨own, beside, here, there, member⟩
    · rw [here, there]
      exact .none
    · rw [here, there, Option.map_some, Option.map_some, member.name]
      refine .some ?_
      split
      · exact ⟨member.role, rfl, member.parameters, member.outcome.afterUse⟩
      · exact member

theorem useMember_agrees {address another : Address} {name : Text} (related : paired address another)
    (seen : isPrivate name = false) :
    Relates World.Agrees paired Value.Agrees (Run.useMember address name)
      (Run.useMember another name) := by
  refine Relates.bind (node?_agrees related) ?_
  rintro later grown _ _ ⟨node, other, rfl, rfl, agree⟩
  cases agree with
  | blueprint agree =>
      dsimp only
      rcases cases_of_rel (agree.members name seen) with
        ⟨here, there⟩ | ⟨own, beside, here, there, member⟩
      · rw [here, there]
        exact Relates.pure (.immediate _ rfl)
      · rw [here, there]
        refine Relates.bind (setNode_alike (grown _ _ related) (.blueprint (agree.afterUse name))) ?_
        rintro last since _ _ _
        exact Relates.ofExcept (member.mono since).outcome.result
  | _ => exact Relates.pure (.immediate _ rfl)

theorem useRoutine_agrees {address another : Address} (related : paired address another) :
    Relates World.Agrees paired Value.Agrees (Run.useRoutine address) (Run.useRoutine another) := by
  refine Relates.bind (node?_agrees related) ?_
  rintro later grown _ _ ⟨node, other, rfl, rfl, agree⟩
  cases agree with
  | routine agree =>
      refine Relates.bind (setNode_alike (grown _ _ related)
        (.routine { agree with outcome := agree.outcome.afterUse })) ?_
      rintro last since _ _ _
      exact Relates.ofExcept (agree.outcome.mono since).result
  | _ => exact Relates.pure (.immediate _ rfl)

theorem reading_agrees {first second : Value} (agree : first.Agrees paired second) :
    Relates World.Agrees paired Reading.Agrees (Run.reading first) (Run.reading second) := by
  cases agree with
  | object related =>
      refine Relates.bind (node?_agrees related) ?_
      rintro later grown _ _ ⟨node, other, rfl, rfl, agree⟩
      have again := grown _ _ related
      cases agree with
      | routine => exact Relates.pure (.callable (.routine again))
      | builtin => exact Relates.pure (.callable (.builtin again))
      | _ => exact Relates.pure (.value (.object again))
  | immediate _ plain =>
      cases first with
      | object => cases plain
      | _ => exact Relates.pure (.value (.immediate _ rfl))

theorem fallback_agrees {first second : Record} (agree : first.Agrees paired second) (name : Text) :
    Reading.Agrees paired (first.fallback name) (second.fallback name) := by
  rw [Record.fallback, Record.fallback, agree.dynamic]
  split
  · exact .value (.immediate _ rfl)
  · exact .missing

theorem value_useMember_agrees {address another : Address} {name : Text}
    (related : paired address another) (seen : isPrivate name = false) :
    Relates World.Agrees paired Reading.Agrees (do return .value (← Run.useMember address name))
      (do return .value (← Run.useMember another name)) := by
  refine Relates.bind (useMember_agrees related seen) ?_
  intro _ _ _ _ agree
  exact Relates.pure (.value agree)

theorem readRecordMember_agrees {first second : Record} (agree : first.Agrees paired second)
    {name : Text} (seen : isPrivate name = false) (role : Role) :
    Relates World.Agrees paired Reading.Agrees (first.readMember name role)
      (second.readMember name role) := by
  have used := value_useMember_agrees agree.blueprint seen
  cases role with
  | property =>
      refine Relates.tryCatch used ?_
      intro later grown failure
      split
      · exact Relates.pure (fallback_agrees (agree.mono grown) name)
      · exact Relates.throw failure
  | selfless =>
      rw [Record.readMember, Record.readMember, agree.typeName]
      exact Relates.pure (.callable (.selfless _ name))
  | method => exact Relates.pure (.callable (.member name agree.blueprint seen))
  | staticMethod => exact Relates.pure (.callable (.member name agree.blueprint seen))
  | classMethod => exact Relates.pure (.callable (.member name agree.blueprint seen))
  | _ => exact used

theorem readRecordOwn_agrees {first second : Record} (agree : first.Agrees paired second) {name : Text}
    (seen : isPrivate name = false) {left right : Run Reading}
    (others : Relates World.Agrees paired Reading.Agrees left right) :
    Relates World.Agrees paired Reading.Agrees (first.readOwn name left) (second.readOwn name right) := by
  unfold Record.readOwn
  rcases cases_of_rel (agree.attributes name seen) with
    ⟨here, there⟩ | ⟨own, beside, here, there, agree⟩
  · rw [here, there]
    exact others
  · rw [here, there]
    exact Relates.pure (.value agree)

theorem readUnnamed_agrees {first second : Record} (agree : first.Agrees paired second) (name : Text) :
    Reading.Agrees paired (first.readUnnamed name) (second.readUnnamed name) := by
  unfold Record.readUnnamed
  split
  · exact .value (.immediate _ rfl)
  · split
    · exact .value (.immediate _ rfl)
    · exact fallback_agrees agree name

theorem readRecord_agrees {first second : Record} (agree : first.Agrees paired second) {name : Text}
    (seen : isPrivate name = false) :
    Relates World.Agrees paired Reading.Agrees (first.read name) (second.read name) := by
  refine Relates.bind (node?_agrees agree.blueprint) ?_
  rintro later grown _ _ ⟨node, other, rfl, rfl, nodes⟩
  have agree := agree.mono grown
  cases nodes with
  | blueprint blueprints =>
      dsimp only
      rcases cases_of_rel (blueprints.members name seen) with
        ⟨here, there⟩ | ⟨own, beside, here, there, member⟩
      · rw [here, there]
        dsimp only
        split
        · exact Relates.pure (.value (.object agree.blueprint))
        · exact readRecordOwn_agrees agree seen (Relates.pure (readUnnamed_agrees agree name))
      · rw [here, there]
        dsimp only
        rw [member.role]
        split
        · exact readRecordMember_agrees agree seen .property
        · exact readRecordOwn_agrees agree seen (readRecordMember_agrees agree seen _)
  | _ => exact readRecordOwn_agrees agree seen (Relates.pure (fallback_agrees agree name))

theorem name_of_find? {blueprint : Blueprint} {name : Text} {member : Member}
    (found : blueprint.find? name = some member) : member.name = name := by
  simpa using List.find?_some found

theorem readBlueprintMember_agrees {first second : Member} (agree : first.Agrees paired second)
    {address another : Address} (related : paired address another)
    (seen : isPrivate second.name = false) :
    Relates World.Agrees paired Reading.Agrees (Blueprint.readMember address first)
      (Blueprint.readMember another second) := by
  unfold Blueprint.readMember
  rw [agree.role, agree.name]
  cases second.role with
  | property => exact Relates.pure (.value (.immediate _ rfl))
  | method => exact Relates.pure (.callable (.unbound _ _ _ _))
  | staticMethod => exact Relates.pure (.callable (.member _ related seen))
  | classMethod => exact Relates.pure (.callable (.member _ related seen))
  | selfless => exact Relates.pure (.callable (.member _ related seen))
  | _ => exact value_useMember_agrees related seen

theorem readBlueprint_agrees {first second : Blueprint} (agree : first.Agrees paired second)
    {address another : Address} (related : paired address another) {name : Text}
    (seen : isPrivate name = false) :
    Relates World.Agrees paired Reading.Agrees (first.read address name)
      (second.read another name) := by
  unfold Blueprint.read
  rw [agree.typeName]
  split
  · exact Relates.pure (.value (.immediate _ rfl))
  · split
    · exact Relates.pure (.value (.immediate _ rfl))
    · split
      · exact Relates.pure (.value (.immediate _ rfl))
      · rcases cases_of_rel (agree.members name seen) with
          ⟨here, there⟩ | ⟨own, beside, here, there, member⟩
        · rw [here, there]
          dsimp only
          split
          · exact Relates.pure (.value (.immediate _ rfl))
          · exact Relates.pure .missing
        · rw [here, there]
          rw [← name_of_find? there] at seen
          exact readBlueprintMember_agrees member related seen

theorem read_builtin_of_seen (routine : Builtin) {name : Text} (seen : isPrivate name = false) :
    routine.read name = .missing := by
  have unlike (word : Text) (hidden : isPrivate word = true) : name ≠ word := ne_of_private hidden seen
  simp only [Builtin.read, unlike "__name__".toList rfl, unlike "__qualname__".toList rfl,
    unlike "__doc__".toList rfl, unlike "__module__".toList rfl, unlike "__self__".toList rfl,
    if_false]

theorem readNode_agrees {node other : Node} (agree : node.Agrees paired other)
    {address another : Address} (related : paired address another) {name : Text}
    (seen : isPrivate name = false) :
    Relates World.Agrees paired Reading.Agrees (node.read address name)
      (other.read another name) := by
  cases agree with
  | record agree => exact readRecord_agrees agree seen
  | blueprint agree => exact readBlueprint_agrees agree related seen
  | routine agree =>
      simp only [Node.read, Routine.read, agree.attributes name seen]
      split
      · exact Relates.pure (.value (.immediate _ rfl))
      · exact Relates.pure .missing
  | builtin =>
      simp only [Node.read, read_builtin_of_seen _ seen]
      exact Relates.pure .missing
  | _ => exact Relates.pure .missing

theorem ofFields_agrees {fields : List (String × Value)}
    (plain : ∀ field ∈ fields, field.2.isObject = false) (name : Text) :
    Reading.Agrees paired (Reading.ofFields fields name) (Reading.ofFields fields name) := by
  unfold Reading.ofFields
  cases found : fields.find? (·.1.toList = name) with
  | none => exact .missing
  | some field => exact .value (.immediate _ (plain field (List.mem_of_find?_eq_some found)))

theorem ofRoutine_agrees {first second : Value} (agree : first.Agrees paired second) (name : Text)
    (routine : Option Routines) :
    Reading.Agrees paired (Reading.ofRoutine first name routine)
      (Reading.ofRoutine second name routine) := by
  cases routine with
  | none => exact .missing
  | some routine =>
      cases routine with
      | needsArguments => exact .callable (.lacksArguments _ _ _ _)
      | runs operation => exact .callable (.operation operation agree)

theorem read_allocate_agrees {node other : Node} (nodes : node.Agrees paired other) :
    Relates World.Agrees paired Reading.Agrees (do return .value (← Run.allocate node))
      (do return .value (← Run.allocate other)) := by
  refine Relates.bind (allocate_agrees nodes) ?_
  intro _ _ _ _ agree
  exact Relates.pure (.value agree)

theorem readPresetCall_agrees (name : String) :
    Relates World.Agrees paired Reading.Agrees (Run.readPresetCall name)
      (Run.readPresetCall name) := by
  unfold Run.readPresetCall
  split
  · exact Relates.pure (.value (.immediate _ rfl))
  · exact read_allocate_agrees (.sequence _ .nil)
  · exact read_allocate_agrees (.mapping _ .nil)
  · exact Relates.pure .missing

theorem readModel_agrees (name : String) :
    Relates World.Agrees paired Reading.Agrees (Run.readModel name) (Run.readModel name) := by
  unfold Run.readModel
  split
  · exact read_allocate_agrees (.mapping _ (forall₂_immediate_entries (by simp [Value.isObject])))
  · exact read_allocate_agrees (.mapping _ .nil)
  · exact Relates.pure .missing

theorem readPattern_agrees (source : Text) (name : String) :
    Relates World.Agrees paired Reading.Agrees (Pattern.readField source name)
      (Pattern.readField source name) := by
  unfold Pattern.readField
  split
  · exact Relates.pure (.value (.immediate _ rfl))
  · exact Relates.pure (.value (.immediate _ rfl))
  · exact Relates.pure (.value (.immediate _ rfl))
  · refine read_allocate_agrees (.mapping _ (forall₂_immediate_entries ?_))
    rintro _ member
    obtain ⟨⟨group, number⟩, _, rfl⟩ := List.mem_map.mp member
    exact ⟨rfl, rfl⟩
  · exact Relates.pure .missing

theorem readStream_agrees (stream : Stream) (name : String) :
    Corresponds (Reading.Agrees paired) (stream.readField name) (stream.readField name) := by
  unfold Stream.readField
  split
  · exact .ok (.value (.immediate _ rfl))
  · split
    · exact .ok .missing
    · exact .ok (.value (.immediate _ rfl))
  · split
    · exact .ok .missing
    · exact .ok (.value (.immediate _ rfl))
  · split
    · exact .ok .missing
    · split
      · exact .error _
      · exact .ok (.value (.immediate _ rfl))
  · split
    · exact .ok .missing
    · split
      · exact .error _
      · exact .ok (.value (.immediate _ rfl))
  · exact .ok .missing

theorem readNodeField_agrees {node other : Node} (agree : node.Agrees paired other) (name : String) :
    Relates World.Agrees paired Reading.Agrees (node.readField name) (other.readField name) := by
  cases agree with
  | stream stream => exact Relates.ofExcept (readStream_agrees stream name)
  | generator finished =>
      simp only [Node.readField]
      split
      · exact Relates.pure (.value (.immediate _ rfl))
      · exact Relates.pure (.value (.immediate _ rfl))
      · exact Relates.pure (.value (.immediate _ rfl))
      · split
        · exact Relates.pure (.value (.immediate _ rfl))
        · exact Relates.pure .missing
      · exact Relates.pure .missing
  | _ => exact Relates.pure .missing

theorem readConstant_agrees (name : Text) :
    Reading.Agrees paired (Kind.readConstant name) (Kind.readConstant name) := by
  unfold Kind.readConstant
  split
  · exact .value (.immediate _ rfl)
  · exact .missing

theorem isObject_documentation (type : ClosedType) : type.documentation.isObject = false := by
  unfold ClosedType.documentation
  split
  · rfl
  · rfl
  · rfl
  · rfl
  · split <;> rfl

theorem isObject_documentation_of_values (type : ClosedType) :
    (Value.documentation type).isObject = false := by
  have own := isObject_documentation type
  unfold Value.documentation
  split <;> first | rfl | exact own

theorem readClosedType_agrees (type : ClosedType) (name : Text) :
    Relates World.Agrees paired Reading.Agrees (type.read name) (type.read name) := by
  have kept : Relates World.Agrees paired Reading.Agrees (type.readKept name) (type.readKept name) := by
    unfold ClosedType.readKept
    split
    · exact Relates.pure (readConstant_agrees name)
    · exact Relates.pure (ofFields_agrees (by simp [Value.isObject]) name)
    · exact readModel_agrees _
    · exact Relates.pure .missing
  unfold ClosedType.read
  dsimp only
  split
  · exact Relates.pure (.value (.immediate _ rfl))
  · split
    · exact Relates.pure (.value (.immediate _ rfl))
    · split
      · exact Relates.pure (.value (.immediate _ (isObject_documentation type)))
      · split
        · exact Relates.pure (.value (.immediate _ rfl))
        · split
          · exact Relates.pure (.value (.immediate _ rfl))
          · refine Relates.bind kept ?_
            intro later grown first second agree
            cases agree with
            | missing => exact Relates.pure (ofRoutine_agrees (.immediate _ rfl) name _)
            | value agree => exact Relates.pure (.value agree)
            | callable agree => exact Relates.pure (.callable agree)

theorem readField_agrees {first second : Value} (agree : first.Agrees paired second) (name : Text) :
    Relates World.Agrees paired Reading.Agrees (first.readField name) (second.readField name) := by
  cases agree with
  | object related =>
      refine Relates.bind (node?_agrees related) ?_
      rintro later grown _ _ ⟨node, other, rfl, rfl, agree⟩
      exact readNodeField_agrees agree _
  | immediate _ plain =>
      cases first with
      | object => cases plain
      | pattern source => exact readPattern_agrees source _
      | handle self =>
          cases self with
          | presetCall => exact readPresetCall_agrees _
          | unreadProperty =>
              simp only [Value.readField]
              split
              · exact Relates.pure (.value (.immediate _ rfl))
              · exact Relates.pure .missing
      | kindConstant self =>
          simp only [Value.readField]
          split
          · exact Relates.pure (.value (.immediate _ rfl))
          · exact Relates.pure (.value (.immediate _ rfl))
          · exact Relates.pure (readConstant_agrees name)
      | settings self =>
          simp only [Value.readField]
          split
          · exact Relates.pure (.value (.immediate _ rfl))
          · exact readModel_agrees _
      | slot self => exact Relates.pure (ofFields_agrees (by simp [Value.isObject]) name)
      | _ => exact Relates.pure .missing

theorem readShared_agrees {first second : Value} (agree : first.Agrees paired second) (name : Text) :
    Relates World.Agrees paired Reading.Agrees (first.readShared name) (second.readShared name) := by
  refine Relates.bind store_agrees ?_
  intro later grown left right stores
  have agree := agree.mono grown
  rw [agree.closedType? stores]
  split
  · exact Relates.pure .missing
  · rename_i type _
    split
    · exact Relates.pure (.value (.immediate _ rfl))
    · split
      · exact Relates.pure (.value (.immediate _ (isObject_documentation_of_values type)))
      · split
        · exact Relates.pure (.value (.immediate _ rfl))
        · refine Relates.bind (readField_agrees agree name) ?_
          intro last since first second found
          have agree := agree.mono since
          cases found with
          | missing =>
              dsimp only
              split
              · exact Relates.pure (ofRoutine_agrees agree name _)
              · exact Relates.pure (ofRoutine_agrees agree name _)
          | value found => exact Relates.pure (.value found)
          | callable found => exact Relates.pure (.callable found)

theorem readOwn_agrees {first second : Value} (agree : first.Agrees paired second) {name : Text}
    (seen : isPrivate name = false) :
    Relates World.Agrees paired Reading.Agrees (first.readOwn name) (second.readOwn name) := by
  cases agree with
  | object related =>
      refine Relates.bind (node?_agrees related) ?_
      rintro later grown _ _ ⟨node, other, rfl, rfl, agree⟩
      exact readNode_agrees agree (grown _ _ related) seen
  | immediate _ plain =>
      cases first with
      | object => cases plain
      | segment self =>
          refine Relates.pure ?_
          unfold Segment.read
          split
          · exact .callable (.source self)
          · split
            · exact ofFields_agrees (by simp [Value.isObject]) name
            · exact ofFields_agrees (by simp [Value.isObject]) name
      | kindConstant self => exact Relates.pure (ofFields_agrees (by simp [Value.isObject]) name)
      | diagnostic self => exact Relates.pure (ofFields_agrees (by simp [Value.isObject]) name)
      | rendering self => exact Relates.pure (ofFields_agrees (by simp [Value.isObject]) name)
      | settings self => exact Relates.pure (ofFields_agrees (by simp [Value.isObject]) name)
      | closedType self => exact readClosedType_agrees self name
      | _ => exact Relates.pure .missing

theorem read_agrees {first second : Value} (agree : first.Agrees paired second) {name : Text}
    (seen : isPrivate name = false) :
    Relates World.Agrees paired Reading.Agrees (first.read name) (second.read name) := by
  refine Relates.bind (readOwn_agrees agree seen) ?_
  intro later grown _ _ found
  cases found with
  | missing => exact readShared_agrees (agree.mono grown) name
  | value found => exact Relates.pure (.value found)
  | callable found => exact Relates.pure (.callable found)

theorem lookUp_agrees {first second : Value} (agree : first.Agrees paired second) {name : Text}
    (seen : isPrivate name = false) :
    Relates World.Agrees paired Reading.Agrees (first.lookUp name) (second.lookUp name) := by
  refine Relates.tryCatch (read_agrees agree seen) ?_
  intro later grown failure
  split
  · exact Relates.pure .missing
  · exact Relates.throw failure

theorem settle_agrees {first second : Reading} (agree : first.Agrees paired second) :
    Relates World.Agrees paired Reading.Agrees first.settle second.settle := by
  cases agree with
  | missing => exact Relates.pure .missing
  | value agree => exact reading_agrees agree
  | callable agree => exact Relates.pure (.callable agree)

end
end Stencil
