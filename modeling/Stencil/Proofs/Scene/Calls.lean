import Stencil.Proofs.Agreement.Calls
import Stencil.Proofs.Scene.Accessors

/-! Calling accessors in a scene. What is given is in the scene that the call leaves. -/

namespace Stencil

open Run

section

variable {templates : Prop}

structure Reentry.Passes (templates : Prop) (reentry : Reentry) : Prop where
  format : ∀ (scene : Scene templates) (address : Address) (template : Template),
    scene.region address → scene.world.store[address]? = some (.template template) →
    Stencil.Passes scene (reentry.format address)
  render : ∀ (scene : Scene templates) (address : Address) (template : Template),
    scene.region address → scene.world.store[address]? = some (.template template) →
    Stencil.Passes scene (reentry.render address)

theorem Reentry.passes_of_none (reentry : Reentry) : reentry.Passes False where
  format scene _ _ inside found := (scene.lone inside found).elim
  render scene _ _ inside found := (scene.lone inside found).elim

def Accessor.Within (scene : Scene templates) : Accessor → Prop
  | .missing | .needsArguments => True
  | .value found => found.In scene

end

section

variable {templates : Prop} {scene : Scene templates}

theorem gives_plain {value : Value} (plain : value.isObject = false) :
    Leads scene Value.In (pure value : Run Value) :=
  Leads.pure (Value.within_of_immediate plain)

theorem operateOpen_leads (stream : Stream) (operation : StreamOperation) :
    Leads scene (fun later given => given.2.In later) (stream.operateOpen operation) := by
  have given (after : Stream) {value : Value} (plain : value.isObject = false) :
      Leads scene (fun later given => given.2.In later) (pure (after, value) : Run (Stream × Value)) :=
    Leads.pure (Value.within_of_immediate plain)
  cases operation with
  | detach => exact Leads.throw _
  | number => exact Leads.throw _
  | whole => exact given _ (isObject_handOut _ _)
  | read => exact given _ (isObject_handOut _ _)
  | readLine => exact given _ (isObject_handOut _ _)
  | readLines =>
      refine Leads.bind (allocate_plain ?_ nofun) ?_
      · intro value member
        obtain ⟨line, _, rfl⟩ := List.mem_map.mp member
        exact isObject_handOut stream line
      · intro _ _ _ within
        exact Leads.pure within
  | _ => exact given _ rfl

theorem operateStream_leads (stream : Stream) (operation : StreamOperation) :
    Leads scene (fun later given => given.2.In later) (stream.operate operation) := by
  have opened : Leads scene (fun later given => given.2.In later) (stream.operateOpen operation) :=
    operateOpen_leads stream operation
  unfold Stream.operate
  split
  · exact opened
  · exact opened
  · exact opened
  · split
    · exact Leads.throw _
    · exact opened
  · split
    · exact Leads.throw _
    · exact opened

theorem operateSettings_leads (settings : Settings) (operation : SettingsOperation) :
    Leads scene Value.In (settings.operate operation) := by
  cases operation with
  | toMapping =>
      refine allocate_plain ?_ nofun
      intro value member
      obtain ⟨_, named, inside⟩ := List.mem_flatMap.mp member
      obtain ⟨field, _, rfl⟩ := List.mem_map.mp named
      rcases List.mem_pair.mp inside with rfl | rfl <;> rfl
  | _ => exact gives_plain rfl

theorem lineageOf_leads {value : Value} (within : value.In scene) :
    Leads scene Value.In (Run.lineageOf value) := by
  unfold Run.lineageOf
  split
  · refine allocate_plain ?_ nofun
    intro value member
    obtain ⟨type, _, rfl⟩ := List.mem_map.mp member
    rfl
  · refine Leads.allocate ?_ ?_
    · intro part member
      rcases List.mem_pair.mp member with rfl | rfl
      · exact within
      · exact Value.within_of_immediate rfl
    · rintro _ ⟨⟩

theorem operateSet_leads {address : Address} (inside : scene.region address) {frozen : Bool}
    {items : List Value} (found : scene.world.store[address]? = some (.set frozen items))
    (operation : Operation) :
    Leads scene Value.In (Run.operateSet address frozen items operation) := by
  have whole := scene.closed inside found
  cases operation with
  | copySet =>
      refine Leads.allocate whole ?_
      rintro _ ⟨⟩
  | clearSet =>
      refine Leads.bind_passes (Leads.setNode inside found (.set frozen _ _) nofun) ?_
      intro _ _ _
      exact gives_plain rfl
  | takeFromSet =>
      cases items with
      | nil => exact Leads.throw _
      | cons item others =>
          have rest : (Node.set frozen others).Within scene.region :=
            fun value member => whole value (List.mem_cons_of_mem _ member)
          refine Leads.bind_passes (Leads.setNode inside found (.set frozen _ _) rest) ?_
          intro later reached _
          exact Leads.pure ((whole item List.mem_cons_self).mono reached.1)
  | _ => exact gives_plain rfl

theorem operateNode_leads {address : Address} (inside : scene.region address) {node : Node}
    (found : scene.world.store[address]? = some node) (operation : Operation) :
    Leads scene Value.In (Run.operateNode address node operation) := by
  unfold Run.operateNode
  split
  · exact operateSet_leads inside found operation
  · rename_i stream step
    refine Leads.bind (operateStream_leads stream step) ?_
    rintro later reached ⟨after, given⟩ within
    obtain ⟨current, found, becomes⟩ := reached.2.kept found
    have again : current.Becomes (.stream after) := by
      cases becomes <;> constructor
    refine Leads.bind_passes (Leads.setNode (reached.1 _ inside) found again nofun) ?_
    intro last further _
    exact Leads.pure (Value.In.mono further within)
  · refine Leads.bind_passes (Leads.setNode inside found (.generator _ _) nofun) ?_
    intro _ _ _
    exact gives_plain rfl
  · exact gives_plain rfl

theorem operate_leads {receiver : Value} (within : receiver.In scene) (operation : Operation) :
    Leads scene Value.In (Run.operate receiver operation) := by
  unfold Run.operate
  split
  · exact Leads.throw _
  · exact lineageOf_leads within
  · exact operateSettings_leads _ _
  · exact operateSettings_leads _ _
  · refine Leads.bind (Leads.node? _) ?_
    rintro later reached _ rfl
    split
    · rename_i found
      exact operateNode_leads (reached.1 _ (within _ rfl)) found _
    · exact gives_plain rfl
  · exact gives_plain rfl

theorem callBuiltin_leads {routine : Builtin} (within : (Node.builtin routine).Within scene.region) :
    Leads scene Value.In routine.call := by
  cases routine with
  | upper => exact gives_plain rfl
  | split receiver =>
      refine allocate_plain ?_ nofun
      intro value member
      obtain ⟨word, _, rfl⟩ := List.mem_map.mp member
      rfl
  | pop receiver =>
      refine Leads.bind (Leads.node? receiver) ?_
      rintro later reached _ rfl
      have inside := reached.1 _ ((Value.within_object _).mp (within _ List.mem_cons_self))
      split
      · rename_i flavour items found
        have whole := later.closed inside found
        split
        · rename_i last ends
          refine Leads.bind_passes (Leads.setNode inside found (.sequence flavour _ _) ?_) ?_
          · exact fun value member => whole value (List.dropLast_subset _ member)
          · intro _ further _
            exact Leads.pure ((whole last (List.mem_of_getLast? ends)).mono further.1)
        · exact Leads.throw _
      · exact Leads.throw _
  | copy receiver =>
      refine Leads.bind (Leads.node? receiver) ?_
      rintro later reached _ rfl
      have inside := reached.1 _ ((Value.within_object _).mp (within _ List.mem_cons_self))
      split
      · rename_i entries found
        refine Leads.allocate (fun value member => later.closed inside found value member) ?_
        rintro _ ⟨⟩
      · rename_i node _ found
        refine Leads.allocate (later.closed inside found) ?_
        rintro template rfl
        exact later.lone inside found
      · exact Leads.pure ((Value.within_object _).mpr inside)
  | _ => exact Leads.throw _

theorem body_leads {reentry : Reentry} (passes : reentry.Passes templates) {callee : Callee}
    (within : callee.Within scene) : Leads scene Value.In (callee.body reentry) := by
  cases callee with
  | member address name => exact useMember_leads within name
  | selfless => exact Leads.throw _
  | operation receiver step => exact operate_leads within step
  | unbound | rebind | lacksArguments => exact Leads.throw _
  | routine address => exact useRoutine_leads within
  | builtin address =>
      refine Leads.bind (Leads.node? address) ?_
      rintro last further _ rfl
      split
      · rename_i found
        exact callBuiltin_leads (last.closed (further.1 _ within) found)
      · exact gives_plain rfl
  | source segment => exact gives_plain rfl
  | format address =>
      obtain ⟨inside, template, found⟩ := within
      refine Leads.bind_passes (passes.format scene address template inside found) ?_
      intro _ _ _
      exact gives_plain rfl
  | render address =>
      obtain ⟨inside, template, found⟩ := within
      refine Leads.bind_passes (passes.render scene address template inside found) ?_
      intro _ _ _
      exact gives_plain rfl

theorem access_leads {reentry : Reentry} (passes : reentry.Passes templates) {value : Value}
    (within : value.In scene) (name : Text) :
    Leads scene Accessor.Within (value.access reentry name) := by
  refine Leads.bind_passes (Leads.note nofun) ?_
  intro later reached _
  refine Leads.bind (lookUp_leads (within.mono reached) name) ?_
  intro _ _ reading read
  refine Leads.bind (settle_leads read) ?_
  intro middle _ found held
  split
  · exact Leads.pure trivial
  · exact Leads.pure held
  · refine Leads.bind Leads.store ?_
    rintro last further _ rfl
    split
    · refine Leads.bind_passes (Leads.note nofun) ?_
      intro _ told _
      refine Leads.bind (body_leads passes (Callee.Within.mono (le_trans further told) held)) ?_
      intro _ _ _ given
      exact Leads.pure given
    · exact Leads.pure trivial

end
end Stencil
