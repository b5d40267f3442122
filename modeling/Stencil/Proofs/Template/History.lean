import Stencil.Edit
import Stencil.Proofs.Render.Reports

/-! A template over its whole life. Whatever is asked of it, and whatever goes on around it in between, its
text and its segments stay, and its default binding is the last one that was not refused. -/

namespace Stencil

open Run Segment

def Value.Held (store : Store) (value : Value) : Prop :=
  ∀ address, value = .object address → ∃ node, store[address]? = some node

def Value.refused (store : Store) (value : Value) : Bool :=
  value ≠ .absent && !value.bindable store

def Store.KeepsSorts (before after : Store) : Prop :=
  ∀ (address : Address) (node : Node), before[address]? = some node →
    ∃ later : Node, after[address]? = some later ∧ later.bindable = node.bindable

section

variable {store later : Store} {value : Value}

theorem Value.Held.mono (held : value.Held store) (kept : store.KeepsSorts later) :
    value.Held later := by
  intro address same
  obtain ⟨node, found⟩ := held address same
  obtain ⟨after, found, _⟩ := kept address node found
  exact ⟨after, found⟩

theorem Value.Held.refused_eq (held : value.Held store) (kept : store.KeepsSorts later) :
    value.refused later = value.refused store := by
  cases value with
  | object address =>
      obtain ⟨node, found⟩ := held address rfl
      obtain ⟨after, found', same⟩ := kept address node found
      simp [Value.refused, Value.bindable, found, found', same]
  | _ => rfl

theorem World.Evolves.keepsSorts {templates : Prop} {before after : World}
    (evolves : before.Evolves templates after) : before.store.KeepsSorts after.store := by
  intro address node found
  obtain ⟨later, found, becomes⟩ := evolves.kept found
  exact ⟨later, found, becomes.bindable⟩

theorem keepsSorts_setNode {address : Address} {first second : Node}
    (found : store[address]? = some first) (same : second.bindable = first.bindable) :
    store.KeepsSorts (store.setIfInBounds address second) := by
  intro other node there
  by_cases here : address = other
  · subst here
    rw [found] at there
    cases there
    obtain ⟨bound, _⟩ := Array.getElem?_eq_some_iff.mp found
    exact ⟨second, by simp [bound], same⟩
  · exact ⟨node, by simpa [Array.getElem?_setIfInBounds, here] using there, rfl⟩

inductive Node.EditsTo : Node → Node → Prop
  | sequence (flavour : SequenceFlavour) (items others : List Value) :
      EditsTo (.sequence flavour items) (.sequence flavour others)
  | mapping (flavour : MappingFlavour) (entries others : List (Value × Value)) :
      EditsTo (.mapping flavour entries) (.mapping flavour others)

theorem Node.EditsTo.bindable {first second : Node} (edited : first.EditsTo second) :
    second.bindable = first.bindable := by
  cases edited <;> rfl

theorem setItem_editsTo {key item : Value} {first second : Node}
    (changed : first.setItem store key item = .ok second) : first.EditsTo second := by
  cases first with
  | sequence flavour items =>
      simp only [Node.setItem] at changed
      split at changed
      · obtain ⟨position, _, same⟩ := exists_of_bind_eq_ok changed
        cases same
        exact .sequence _ _ _
      · cases changed
  | mapping flavour entries =>
      simp only [Node.setItem] at changed
      split at changed
      · obtain ⟨_, _, same⟩ := exists_of_bind_eq_ok changed
        cases same
        exact .mapping _ _ _
      · cases changed
  | _ => cases changed

theorem eraseItem_editsTo {depth : Nat} {key : Value} {first second : Node}
    (changed : first.eraseItem depth store key = .ok second) : first.EditsTo second := by
  cases first with
  | sequence flavour items =>
      simp only [Node.eraseItem] at changed
      split at changed
      · obtain ⟨position, _, same⟩ := exists_of_bind_eq_ok changed
        cases same
        exact .sequence _ _ _
      · cases changed
  | mapping flavour entries =>
      simp only [Node.eraseItem] at changed
      split at changed
      · obtain ⟨_, _, changed⟩ := exists_of_bind_eq_ok changed
        split at changed
        · cases changed
          exact .mapping _ _ _
        · obtain ⟨_, _, failed⟩ := exists_of_bind_eq_ok changed
          cases failed
      · cases changed
  | _ => cases changed

theorem append_editsTo {item : Value} {first second : Node}
    (changed : first.append item = .ok second) : first.EditsTo second := by
  cases first with
  | sequence flavour items =>
      simp only [Node.append] at changed
      split at changed
      · cases changed
        exact .sequence _ _ _
      · cases changed
  | _ => cases changed

end

namespace Template

def Request.binding : Request → Value
  | .bind binding | .format binding | .render binding | .interpolate binding | .modulo binding
  | .rightModulo binding => binding
  | .shown => .absent

/-- What may go on around a template while nothing is asked of it: settings, variables and objects may
change, but the template is left alone, and what can be bound goes on to be of that sort. -/
structure Elsewhere (address : Address) (before after : World) : Prop where
  own : after.store[address]? = before.store[address]?
  kept : before.store.KeepsSorts after.store

theorem elsewhere_of_store_eq {before after : World} (address : Address)
    (same : after.store = before.store) : Elsewhere address before after where
  own := by rw [same]
  kept := by
    rw [same]
    exact fun _ node found => ⟨node, found, rfl⟩

theorem elsewhere_edit {address : Address} {template : Template} {before : World}
    (found : before.store[address]? = some (.template template)) (target : Value)
    (change : Store → Node → Except Failure Node)
    (edits : ∀ {store first second}, change store first = .ok second → first.EditsTo second) :
    Elsewhere address before ((Run.edit target change).outcome before).2 := by
  rw [Run.edit, outcome_bind, outcome_store]
  dsimp only
  split
  · rename_i other
    split
    · rename_i node there
      cases changed : change before.store node with
      | error failure => exact elsewhere_of_store_eq address rfl
      | ok second =>
          have edited := edits changed
          have apart : other ≠ address := by
            rintro rfl
            rw [found] at there
            cases there
            cases edited
          constructor
          · change (before.store.setIfInBounds other second)[address]? = _
            simp [apart]
          · exact keepsSorts_setNode there edited.bindable
    · exact elsewhere_of_store_eq address rfl
  · exact elsewhere_of_store_eq address rfl

theorem elsewhere_edits {address : Address} {template : Template} {before : World}
    (found : before.store[address]? = some (.template template)) (depth : Nat) (target key item : Value) :
    Elsewhere address before
        ((Run.edit target fun store node => node.setItem store key item).outcome before).2 ∧
      Elsewhere address before
        ((Run.edit target fun store node => node.eraseItem depth store key).outcome before).2 ∧
      Elsewhere address before ((Run.edit target fun _ node => node.append item).outcome before).2 :=
  ⟨elsewhere_edit found target _ setItem_editsTo, elsewhere_edit found target _ eraseItem_editsTo,
    elsewhere_edit found target _ append_editsTo⟩

/-- What has been asked of a template since it was made, with the replies and the failures, and the world
that this has come to. -/
inductive History (reentry : Reentry) (address : Address) (start : World) :
    List (Request × Except Failure Reply) → World → Prop
  | start : History reentry address start [] start
  | asked {past before} (request : Request) : History reentry address start past before →
      request.binding.Held before.store →
      History reentry address start
        (past ++ [(request, ((perform reentry address request).outcome before).1)])
        ((perform reentry address request).outcome before).2
  | around {past before after} : History reentry address start past before →
      Elsewhere address before after → History reentry address start past after

def boundBy (bound : Value) : Request × Except Failure Reply → Value
  | (.bind binding, .ok _) => binding
  | _ => bound

def boundAfter (given : Value) (past : List (Request × Except Failure Reply)) : Value :=
  past.foldl boundBy given

def chosen (bound binding : Value) : Value :=
  if binding = .absent then bound else binding

/-- An explicit binding is used, else the default one; without either nothing at all is done. -/
def answer {α : Type} (own : Option Settings) (bound binding : Value)
    (use : Settings → Value → Run α) : Run α :=
  if chosen bound binding = .absent then throw .bindingRequired
  else do use (← Settings.inForce own) (chosen bound binding)

/-- How a template of a text answers when its default binding is `bound`. -/
structure Answers (reentry : Reentry) (text : Text) (own : Option Settings) (bound : Value)
    (address : Address) (now : World) : Prop where
  node : now.store[address]? = some (.template ⟨text, compile text, bound, own⟩)
  bindable : bound.refused now.store = false
  binds : ∀ binding, (perform reentry address (.bind binding)).outcome now =
    if binding.refused now.store then
      (.error (.invalidBinding (binding.typeName now.store)), now)
    else
      (.ok .itself, { now with
        store := now.store.setIfInBounds address (.template ⟨text, compile text, binding, own⟩) })
  formats : ∀ binding, ∀ request ∈ [Request.format binding, .interpolate binding, .modulo binding],
    (perform reentry address request).outcome now =
      (answer own bound binding fun settings chosen =>
        Reply.text <$> Stencil.format reentry settings (compile text) chosen).outcome now
  renders : ∀ binding, (perform reentry address (.render binding)).outcome now =
    (answer own bound binding fun settings chosen =>
      Reply.rendering <$> Stencil.render reentry settings (compile text) chosen).outcome now
  refuses : ∀ left, (perform reentry address (.rightModulo left)).outcome now = (.error .rightOperand, now)
  shows : (perform reentry address .shown).outcome now =
    if bound = .absent then (.ok (.text text), now)
    else (perform reentry address (.format .absent)).outcome now

section

variable {world : World} {reentry : Reentry} {address : Address} {text : Text} {own : Option Settings}
variable {bound : Value}

theorem rebind_eq (template : Template) (store : Store) (binding : Value) :
    template.rebind store binding =
      if binding.refused store then .error (.invalidBinding (binding.typeName store))
      else .ok { template with binding } := by
  unfold rebind Value.refused
  by_cases absent : binding = .absent
  · subst absent
    rfl
  · cases fits : binding.bindable store <;> simp [absent] <;> rfl

theorem outcome_template {template : Template}
    (found : world.store[address]? = some (.template template)) :
    (Run.template address).outcome world = (.ok template, world) := by
  rw [Run.template, outcome_bind, outcome_node?, found]
  rfl

theorem selectBinding_eq (template : Template) (binding : Value) :
    template.selectBinding binding =
      if chosen template.binding binding = .absent then .error .bindingRequired
      else .ok (chosen template.binding binding) := by
  unfold selectBinding chosen
  by_cases explicit : binding = .absent
  · by_cases default : template.binding = .absent <;> simp [explicit, default] <;> rfl
  · simp [explicit]
    rfl

theorem eq_answer {α : Type} (template : Template) (binding : Value)
    (use : Settings → Value → Run α) :
    (do
      let chosen ← Run.ofExcept (template.selectBinding binding)
      let settings ← Settings.inForce template.settings
      use settings chosen) = answer template.settings template.binding binding use := by
  unfold answer
  rw [selectBinding_eq]
  split <;> rfl

theorem map_answer {α β : Type} (change : α → β) (own : Option Settings) (bound binding : Value)
    (use : Settings → Value → Run α) :
    change <$> answer own bound binding use =
      answer own bound binding fun settings chosen => change <$> use settings chosen := by
  unfold answer
  split
  · rfl
  · simp

theorem outcome_replied {template : Template}
    (found : world.store[address]? = some (.template template)) {α : Type} (reply : α → Reply)
    (use : Template → Run α) :
    (do return reply (← Run.template address >>= use) : Run Reply).outcome world =
      (reply <$> use template).outcome world := by
  rw [bind_assoc, outcome_bind, outcome_template found, map_eq_pure_bind]

theorem outcome_bindAt {template : Template}
    (found : world.store[address]? = some (.template template)) (binding : Value) :
    (perform reentry address (.bind binding)).outcome world =
      if binding.refused world.store then
        (.error (.invalidBinding (binding.typeName world.store)), world)
      else
        (.ok .itself, { world with
          store := world.store.setIfInBounds address (.template { template with binding }) }) := by
  rw [perform, bindAt, bind_assoc, outcome_bind, outcome_template found]
  dsimp only
  rw [bind_assoc, outcome_bind, outcome_store]
  dsimp only
  rw [rebind_eq]
  split <;> rfl

theorem answers_of_node
    (node : world.store[address]? = some (.template ⟨text, compile text, bound, own⟩))
    (bindable : bound.refused world.store = false) :
    Answers reentry text own bound address world where
  node := node
  bindable := bindable
  binds := outcome_bindAt node
  formats := by
    have formatted (binding : Value) : (perform reentry address (.format binding)).outcome world =
        (answer own bound binding fun settings chosen =>
          Reply.text <$> Stencil.format reentry settings (compile text) chosen).outcome world := by
      rw [perform, formatAt, outcome_replied node, formatWith, eq_answer, map_answer]
    intro binding request member
    have named : perform reentry address request = perform reentry address (.format binding) := by
      simp only [List.mem_cons, List.not_mem_nil, or_false] at member
      rcases member with rfl | rfl | rfl <;> rfl
    rw [named, formatted]
  renders := by
    intro binding
    rw [perform, renderAt, outcome_replied node, renderWith, eq_answer, map_answer]
  refuses := fun _ => rfl
  shows := by
    simp only [perform, shownAt, formatAt, outcome_replied node, shownWith]
    split
    · rfl
    · rename_i default
      simp only [formatWith, eq_answer, answer, chosen, default, ↓reduceIte]

theorem perform_passes (depth : Nat) {request : Request}
    (asking : ∀ binding, request ≠ .bind binding) :
    Passes (Scene.whole world) (perform (.ofDepth depth) address request) := by
  have passes := ofDepth_passes depth
  have inside {later : Scene True} (reached : Scene.whole world ≤ later) (value : Value) :
      value.In later := fun other _ => reached.1 other trivial
  have replied {α : Type} {action : Run α} (reply : α → Reply)
      (passes : Passes (Scene.whole world) action) :
      Passes (Scene.whole world) (do return reply (← action) : Run Reply) :=
    Leads.bind_passes passes fun _ _ _ => Leads.pure trivial
  have formatted (binding : Value) :
      Passes (Scene.whole world) (formatAt (.ofDepth depth) address binding) := by
    refine Leads.bind (template_leads address) ?_
    intro later reached template _
    exact formatWith_passes passes (inside reached _) (inside reached _)
  cases request with
  | bind binding => exact absurd rfl (asking binding)
  | format binding => exact replied _ (formatted binding)
  | interpolate binding => exact replied _ (formatted binding)
  | modulo binding => exact replied _ (formatted binding)
  | rightModulo left => exact replied _ (Leads.throw _)
  | render binding =>
      refine replied _ (Leads.bind (template_leads address) ?_)
      intro later reached template _
      exact renderWith_passes passes (inside reached _) (inside reached _)
  | shown =>
      refine replied _ (Leads.bind (template_leads address) ?_)
      intro later reached template _
      unfold shownWith
      split
      · exact Leads.pure trivial
      · exact formatWith_passes passes (inside reached _) (inside reached _)

theorem perform_evolves (depth : Nat) (address : Address) {request : Request}
    (asking : ∀ binding, request ≠ .bind binding) (world : World) :
    world.Evolves True ((perform (.ofDepth depth) address request).outcome world).2 := by
  obtain ⟨later, reached, left, _⟩ := perform_passes depth asking
  exact left ▸ reached.2

theorem boundBy_of_asking {request : Request} (asking : ∀ binding, request ≠ .bind binding)
    (result : Except Failure Reply) : boundBy bound (request, result) = bound := by
  cases request with
  | bind binding => exact absurd rfl (asking binding)
  | _ => rfl

structure Standing (text : Text) (own : Option Settings) (bound : Value) (address : Address)
    (now : World) : Prop where
  node : now.store[address]? = some (.template ⟨text, compile text, bound, own⟩)
  held : bound.Held now.store
  bindable : bound.refused now.store = false

theorem Standing.keep (standing : Standing text own bound address world) {after : World}
    (node : after.store[address]? = world.store[address]?)
    (kept : world.store.KeepsSorts after.store) : Standing text own bound address after where
  node := node.trans standing.node
  held := standing.held.mono kept
  bindable := (standing.held.refused_eq kept).trans standing.bindable

theorem Standing.perform (standing : Standing text own bound address world) (depth : Nat)
    {request : Request} (held : request.binding.Held world.store) :
    Standing text own
      (boundBy bound (request, ((perform (.ofDepth depth) address request).outcome world).1)) address
      ((perform (.ofDepth depth) address request).outcome world).2 := by
  by_cases binds : ∃ binding, request = .bind binding
  · obtain ⟨binding, rfl⟩ := binds
    rw [outcome_bindAt standing.node]
    split
    · exact standing
    · rename_i accepted
      have kept : world.store.KeepsSorts
          (world.store.setIfInBounds address (.template ⟨text, compile text, binding, own⟩)) :=
        keepsSorts_setNode standing.node rfl
      obtain ⟨inside, _⟩ := Array.getElem?_eq_some_iff.mp standing.node
      exact {
        node := by simp [inside, boundBy]
        held := held.mono kept
        bindable := (held.refused_eq kept).trans (Bool.eq_false_iff.mpr accepted) }
  · have asking := not_exists.mp binds
    have evolves := perform_evolves depth address asking world
    rw [boundBy_of_asking asking]
    exact standing.keep ((evolves.template standing.node).trans standing.node.symm) evolves.keepsSorts

theorem History.standing {depth : Nat} {start now : World}
    {past : List (Request × Except Failure Reply)}
    (history : History (.ofDepth depth) address start past now) {given : Value}
    (made : Standing text own given address start) :
    Standing text own (boundAfter given past) address now := by
  -- on the history, with what stands of the template as the invariant
  induction history with
  | start => exact made
  | asked request _ held ih =>
      rw [boundAfter, List.foldl_append]
      exact ih.perform depth held
  | around _ elsewhere ih => exact ih.keep elsewhere.own elsewhere.kept

theorem outcome_construct (text : Text) (given : Value) (own : Option Settings) (world : World) :
    ∃ told, (construct (.text text) given own).outcome world =
      if given.refused world.store then
        (.error (.invalidBinding (given.typeName world.store)), world.noting told)
      else
        (.ok (.object world.store.size), { world.noting told with
          store := world.store.push (.template ⟨text, compile text, given, own⟩) }) := by
  refine ⟨[.log .debug .compiler ("Compiled template into ".toList ++
    Numeral.ofNat (compile text).length ++ " top-level segments".toList)], ?_⟩
  by_cases absent : given = .absent
  · subst absent
    rfl
  · have rebound := rebind_eq ⟨text, compile text, .absent, own⟩ world.store given
    cases refused : given.refused world.store <;> rw [refused] at rebound <;>
      simp only [construct, create, compileNoted, Run.log, bind_assoc, pure_bind, absent, ↓reduceIte,
        outcome_bind, outcome_note, outcome_store, rebound] <;> rfl

/-- A template is made unless its binding is refused. From then on, through every history, it answers as
one of its text whose default binding is the last that was not refused. -/
theorem template_keeps_last_binding (depth : Nat) (text : Text) (own : Option Settings) {given : Value}
    {world : World} (held : given.Held world.store) :
    (∃ told, (construct (.text text) given own).outcome world =
      if given.refused world.store then
        (.error (.invalidBinding (given.typeName world.store)), world.noting told)
      else
        (.ok (.object world.store.size), { world.noting told with
          store := world.store.push (.template ⟨text, compile text, given, own⟩) })) ∧
      (given.refused world.store = false → ∀ past now,
        History (.ofDepth depth) world.store.size ((construct (.text text) given own).outcome world).2
          past now →
        Answers (.ofDepth depth) text own (boundAfter given past) world.store.size now) := by
  obtain ⟨told, made⟩ := outcome_construct text given own world
  refine ⟨⟨told, made⟩, ?_⟩
  intro accepted past now history
  have kept : world.store.KeepsSorts
      (world.store.push (.template ⟨text, compile text, given, own⟩)) := by
    intro address node found
    obtain ⟨inside, _⟩ := Array.getElem?_eq_some_iff.mp found
    refine ⟨node, ?_, rfl⟩
    rw [Array.getElem?_push, if_neg (Nat.ne_of_lt inside)]
    exact found
  have standing : Standing text own given world.store.size
      ((construct (.text text) given own).outcome world).2 := by
    rw [made, accepted]
    exact ⟨Array.getElem?_push_size, held.mono kept, (held.refused_eq kept).trans accepted⟩
  have reached := history.standing standing
  exact answers_of_node reached.node reached.bindable

def oneEntry : World :=
  { World.empty with store := #[.mapping .plain [(.text ['a'], .integer 1)]] }

theorem oneEntry_answers :
    ∃ past now,
      History (.ofDepth 1) 1
        ((construct (.text ['{', 'a', '}']) .absent (some .default)).outcome oneEntry).2 past now ∧
      past.map Prod.snd = [.ok .itself, .error (.invalidBinding ['i', 'n', 't'])] ∧
      now.store[0]? = some (.mapping .plain [(.text ['a'], .integer 2)]) ∧
      Answers (.ofDepth 1) ['{', 'a', '}'] (some .default) (.object 0) 1 now := by
  have held : Value.absent.Held oneEntry.store := nofun
  have made := template_keeps_last_binding 1 ['{', 'a', '}'] (some .default) held
  have bound : History (.ofDepth 1) 1
      ((construct (.text ['{', 'a', '}']) .absent (some .default)).outcome oneEntry).2 _ _ :=
    .asked (.bind (.object 0)) .start fun _ same => by
      cases same
      exact ⟨_, rfl⟩
  have edited := bound.around (elsewhere_edits rfl 0 (.object 0) (.text ['a']) (.integer 2)).1
  have refused := edited.asked (.bind (.integer 3)) nofun
  exact ⟨_, _, refused, rfl, rfl, made.2 rfl _ _ refused⟩

def heldTemplate : World :=
  { World.empty with
    store := #[.template ⟨['x'], [.literal ['x']], .absent, none⟩,
      .mapping .plain [(.text ['f'], .object 0)]] }

def formatsHeld : Text := ['{', 'f', '.', 'f', 'o', 'r', 'm', 'a', 't', '}']

/-- A template that has a default binding can fail for want of one, where an accessor formats another
template that has none. -/
theorem heldTemplate_lacks_binding :
    ((construct (.text formatsHeld) (.object 1) (some .default)).outcome heldTemplate).1 =
        .ok (.object 2) ∧
      ((construct (.text formatsHeld) (.object 1) (some .default)).outcome heldTemplate).2.store[2]? =
        some (.template ⟨formatsHeld, compile formatsHeld, .object 1, some .default⟩) ∧
      ((perform (.ofDepth 1) 2 (.format .absent)).outcome
        ((construct (.text formatsHeld) (.object 1) (some .default)).outcome heldTemplate).2).1 =
          .error .bindingRequired := by
  obtain ⟨told, made⟩ := outcome_construct formatsHeld (.object 1) (some .default) heldTemplate
  have compiled : compile formatsHeld =
      [.placeholder [.literal ['f', '.', 'f', 'o', 'r', 'm', 'a', 't']]] := by decide
  rw [made]
  refine ⟨rfl, rfl, ?_⟩
  simp only [perform, formatAt]
  rw [outcome_replied rfl, formatWith, eq_answer, answer]
  simp only [compiled, Stencil.format, Stencil.render, renderLoop_eq_renderAllWith]
  rfl

end

end Template
end Stencil
