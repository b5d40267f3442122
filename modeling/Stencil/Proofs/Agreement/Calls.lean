import Stencil.Proofs.Agreement.Accessors

/-! Calling the accessors of values that agree: what is given agrees too, and so do the worlds after it. -/

namespace Stencil

open Run

variable {paired : Pairing}

theorem isObject_handOut (stream : Stream) (part : Text) :
    (stream.handOut part).isObject = false := by
  unfold Stream.handOut
  split <;> rfl

def GivenAgrees (paired : Pairing) (first second : Stream × Value) : Prop :=
  first.1 = second.1 ∧ first.2.Agrees paired second.2

theorem operateOpen_agrees (stream : Stream) (operation : StreamOperation) :
    Relates World.Agrees paired GivenAgrees (stream.operateOpen operation)
      (stream.operateOpen operation) := by
  have given (after : Stream) (value : Value) (plain : value.isObject = false) :
      Relates World.Agrees paired GivenAgrees (pure (after, value)) (pure (after, value)) :=
    Relates.pure ⟨rfl, .immediate value plain⟩
  cases operation with
  | detach => exact Relates.throw _
  | number => exact Relates.throw _
  | whole => exact given _ _ (isObject_handOut _ _)
  | read => exact given _ _ (isObject_handOut _ _)
  | readLine => exact given _ _ (isObject_handOut _ _)
  | readLines =>
      refine Relates.bind (allocate_agrees (.sequence _ (forall₂_immediate ?_))) ?_
      · rintro _ member
        obtain ⟨line, _, rfl⟩ := List.mem_map.mp member
        exact isObject_handOut stream line
      · intro _ _ first second agree
        exact Relates.pure ⟨rfl, agree⟩
  | _ => exact given _ _ rfl

theorem operateStream_agrees (stream : Stream) (operation : StreamOperation) :
    Relates World.Agrees paired GivenAgrees (stream.operate operation)
      (stream.operate operation) := by
  have opened : Relates World.Agrees paired GivenAgrees (stream.operateOpen operation)
      (stream.operateOpen operation) := operateOpen_agrees stream operation
  unfold Stream.operate
  split
  · exact opened
  · exact opened
  · exact opened
  · split
    · exact Relates.throw _
    · exact opened
  · split
    · exact Relates.throw _
    · exact opened

theorem operateSettings_agrees (settings : Settings) (operation : SettingsOperation) :
    Relates World.Agrees paired Value.Agrees (settings.operate operation)
      (settings.operate operation) := by
  cases operation with
  | toMapping =>
      exact allocate_agrees (.mapping _ (forall₂_immediate_entries (by simp [Value.isObject])))
  | _ => exact Relates.pure (.immediate _ rfl)

theorem lineageOf_agrees {first second : Value} (agree : first.Agrees paired second) :
    Relates World.Agrees paired Value.Agrees (Run.lineageOf first) (Run.lineageOf second) := by
  have pair : List.Forall₂ (Value.Agrees paired) [first, .closedType .base]
      [second, .closedType .base] :=
    .cons agree (.cons (.immediate _ rfl) .nil)
  cases agree with
  | object related => exact allocate_agrees (.sequence _ pair)
  | immediate _ plain =>
      cases first with
      | closedType type =>
          refine allocate_agrees (.sequence _ (forall₂_immediate ?_))
          rintro _ member
          obtain ⟨above, _, rfl⟩ := List.mem_map.mp member
          rfl
      | _ => exact allocate_agrees (.sequence _ pair)

theorem operateSet_agrees {address another : Address} (related : paired address another)
    (frozen : Bool) {items others : List Value} (agree : List.Forall₂ (Value.Agrees paired) items others)
    (operation : Operation) :
    Relates World.Agrees paired Value.Agrees (Run.operateSet address frozen items operation)
      (Run.operateSet another frozen others operation) := by
  cases operation with
  | copySet => exact allocate_agrees (.set frozen agree)
  | clearSet =>
      refine Relates.bind (setNode_alike related (.set frozen .nil)) ?_
      intro _ _ _ _ _
      exact Relates.pure (.immediate _ rfl)
  | takeFromSet =>
      cases agree with
      | nil => exact Relates.throw _
      | cons head rest =>
          refine Relates.bind (setNode_alike related (.set frozen rest)) ?_
          intro _ grown _ _ _
          exact Relates.pure (head.mono grown)
  | _ => exact Relates.pure (.immediate _ rfl)

theorem operateNode_agrees {node other : Node} (agree : node.Agrees paired other)
    {address another : Address} (related : paired address another) (operation : Operation) :
    Relates World.Agrees paired Value.Agrees (Run.operateNode address node operation)
      (Run.operateNode another other operation) := by
  have nothing {stage : Pairing} :
      Relates World.Agrees stage Value.Agrees (pure .absent : Run Value) (pure .absent) :=
    Relates.pure (.immediate _ rfl)
  cases agree with
  | set frozen items => exact operateSet_agrees related frozen items operation
  | stream stream =>
      cases operation with
      | stream step =>
          refine Relates.bind (operateStream_agrees stream step) ?_
          rintro later grown ⟨after, given⟩ ⟨_, _⟩ ⟨rfl, agree⟩
          refine Relates.bind (setNode_alike (grown _ _ related) (.stream after)) ?_
          intro _ since _ _ _
          exact Relates.pure (agree.mono since)
      | _ => exact nothing
  | generator finished =>
      cases operation with
      | endGenerator =>
          refine Relates.bind (setNode_alike related (.generator true)) ?_
          intro _ _ _ _ _
          exact nothing
      | _ => exact nothing
  | _ => exact nothing

theorem operateAddress_agrees {address another : Address} (related : paired address another)
    (operation : Operation) :
    Relates World.Agrees paired Value.Agrees
      (do match ← Run.node? address with
        | some node => Run.operateNode address node operation
        | none => return .absent)
      (do match ← Run.node? another with
        | some node => Run.operateNode another node operation
        | none => return .absent) := by
  refine Relates.bind (node?_agrees related) ?_
  rintro later grown _ _ ⟨node, other, rfl, rfl, agree⟩
  exact operateNode_agrees agree (grown _ _ related) operation

theorem operate_agrees {first second : Value} (agree : first.Agrees paired second)
    (operation : Operation) :
    Relates World.Agrees paired Value.Agrees (Run.operate first operation)
      (Run.operate second operation) := by
  have lineage := lineageOf_agrees agree
  cases agree with
  | object related =>
      have stored := operateAddress_agrees related operation
      cases operation with
      | refuse message => exact Relates.throw _
      | lineage => exact lineage
      | settings step => exact operateSettings_agrees _ step
      | _ => exact stored
  | immediate _ plain =>
      cases operation with
      | refuse message => cases first <;> exact Relates.throw _
      | lineage => cases first <;> exact lineage
      | settings step => cases first <;> exact operateSettings_agrees _ step
      | _ =>
          cases first with
          | object => cases plain
          | _ => exact Relates.pure (.immediate _ rfl)

theorem callBuiltin_agrees {first second : Builtin} (agree : first.Agrees paired second) :
    Relates World.Agrees paired Value.Agrees first.call second.call := by
  cases agree with
  | length => exact Relates.throw _
  | maximum => exact Relates.throw _
  | attributeLookup => exact Relates.throw _
  | join => exact Relates.throw _
  | get => exact Relates.throw _
  | upper => exact Relates.pure (.immediate _ rfl)
  | split receiver =>
      refine allocate_agrees (.sequence _ (forall₂_immediate ?_))
      rintro _ member
      obtain ⟨word, _, rfl⟩ := List.mem_map.mp member
      rfl
  | pop related =>
      refine Relates.bind (node?_agrees related) ?_
      rintro later grown _ _ ⟨node, other, rfl, rfl, agree⟩
      cases agree with
      | @sequence flavour items others agree =>
          have rest : List.Forall₂ (Value.Agrees later) items.dropLast others.dropLast := by
            rw [List.dropLast_eq_take, List.dropLast_eq_take, agree.length_eq]
            exact List.forall₂_take _ agree
          dsimp only
          rw [List.getLast?_eq_getElem?, List.getLast?_eq_getElem?, ← agree.length_eq]
          rcases cases_of_rel (getElem?_rel agree (items.length - 1)) with
            ⟨here, there⟩ | ⟨last, beside, here, there, agree⟩
          · rw [here, there]
            exact Relates.throw _
          · rw [here, there]
            refine Relates.bind (setNode_alike (grown _ _ related) (.sequence flavour rest)) ?_
            intro _ since _ _ _
            exact Relates.pure (agree.mono since)
      | _ => exact Relates.throw _
  | copy related =>
      refine Relates.bind (node?_agrees related) ?_
      rintro later grown _ _ ⟨node, other, rfl, rfl, agree⟩
      have whole := allocate_agrees agree
      cases agree with
      | mapping flavour entries =>
          cases flavour with
          | readOnly => exact allocate_agrees (.mapping _ entries)
          | _ => exact whole
      | _ => exact whole

theorem takesNoArguments_eq {left right : Store} (stores : Store.Agrees paired left right)
    {first second : Callee} (agree : first.Agrees paired second) :
    first.takesNoArguments left = second.takesNoArguments right := by
  cases agree with
  | member name related seen =>
      obtain ⟨node, other, found, beside, agree⟩ := stores.nodes related
      simp only [Callee.takesNoArguments, found, beside]
      cases agree with
      | blueprint agree =>
          dsimp only
          rcases cases_of_rel (agree.members name seen) with
            ⟨here, there⟩ | ⟨own, beside, here, there, member⟩
          · rw [here, there]
          · rw [here, there]
            dsimp only
            rw [member.parameters]
      | _ => rfl
  | routine related => exact Value.Agrees.takesNoArguments (.object related) stores
  | builtin related => exact Value.Agrees.takesNoArguments (.object related) stores
  | _ => rfl

theorem body_agrees (reentry another : Reentry) {first second : Callee}
    (agree : first.Agrees paired second) :
    Relates World.Agrees paired Value.Agrees (first.body reentry) (second.body another) := by
  cases agree with
  | member name related seen => exact useMember_agrees related seen
  | unbound => exact Relates.throw _
  | selfless => exact Relates.throw _
  | routine related => exact useRoutine_agrees related
  | builtin related =>
      refine Relates.bind (node?_agrees related) ?_
      rintro last since _ _ ⟨node, other, rfl, rfl, agree⟩
      cases agree with
      | builtin agree => exact callBuiltin_agrees agree
      | _ => exact Relates.pure (.immediate _ rfl)
  | source segment => exact Relates.pure (.immediate _ rfl)
  | operation operation agree => exact operate_agrees agree operation
  | lacksArguments => exact Relates.throw _

theorem access_agrees (reentry another : Reentry) {first second : Value}
    (agree : first.Agrees paired second) {name : Text} (seen : isPrivate name = false) :
    Relates World.Agrees paired Accessor.Agrees (first.access reentry name)
      (second.access another name) := by
  refine Relates.bind (note_alike_of_untold rfl rfl) ?_
  intro later grown _ _ _
  refine Relates.bind (lookUp_agrees (agree.mono grown) seen) ?_
  intro _ _ _ _ readings
  refine Relates.bind (settle_agrees readings) ?_
  intro reached since _ _ found
  cases found with
  | missing => exact Relates.pure .missing
  | value agree => exact Relates.pure (.value agree)
  | callable callee =>
      refine Relates.bind store_agrees ?_
      intro last wider left right stores
      rw [takesNoArguments_eq stores (callee.mono wider)]
      split
      · refine Relates.bind (note_alike_of_untold rfl rfl) ?_
        intro _ told _ _ _
        refine Relates.bind (body_agrees reentry another (callee.mono (le_trans wider told))) ?_
        intro _ _ _ _ agree
        exact Relates.pure (.value agree)
      · exact Relates.pure .needsArguments

end Stencil
