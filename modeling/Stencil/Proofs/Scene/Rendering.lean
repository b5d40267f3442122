import Stencil.Proofs.Render.Recursion
import Stencil.Proofs.Scene.Calls
import Stencil.Template

/-! Rendering and formatting in a scene: from the text of a value up to templates inside each other. -/

namespace Stencil

open Run Segment

def Diagnostic.IsMade (diagnostic : Diagnostic) : Prop :=
  ∃ expression kind, diagnostic = .of expression kind

section

variable {templates : Prop} {scene : Scene templates} {reentry : Reentry}

theorem eq_object_of_template? {store : Store} {value : Value} {address : Address} {template : Template}
    (given : value.template? store = some (address, template)) :
    value = .object address ∧ store[address]? = some (.template template) := by
  cases value with
  | object =>
      unfold Value.template? at given
      dsimp only at given
      split at given
      · rename_i found
        cases given
        exact ⟨rfl, found⟩
      · cases given
  | _ => cases given

theorem display_passes (passes : reentry.Passes templates) {value : Value} (within : value.In scene)
    (depth : Nat) : Passes scene (value.display reentry depth) := by
  refine Leads.bind Leads.store ?_
  rintro later reached _ rfl
  split
  · rename_i address template shown
    obtain ⟨rfl, found⟩ := eq_object_of_template? shown
    unfold Template.display
    split
    · exact Leads.pure trivial
    · exact passes.format later address template (reached.1 _ (within address rfl)) found
  · exact Leads.ofExcept_passes _

namespace Json

theorem ofLeaf_passes {display : Nat → Value → Run Text} {depth : Nat} {value : Value}
    (shown : Passes scene (display depth value)) : Passes scene (ofLeaf display depth value) := by
  unfold ofLeaf
  split
  · exact Leads.pure trivial
  · exact Leads.pure trivial
  · split
    · exact Leads.throw _
    · exact Leads.pure trivial
  · exact Leads.pure trivial
  · exact Leads.pure trivial
  · split
    · exact Leads.pure trivial
    · exact Leads.throw _
  · exact Leads.pure trivial
  · refine Leads.bind_passes shown ?_
    intro _ _ _
    exact Leads.pure trivial

theorem item?_leads {address : Address} (inside : scene.region address) (index : Nat) :
    Leads scene (fun later item => ∀ value, item = some value → value.In later)
      (Run.item? address index) := by
  refine Leads.bind (Leads.node? address) ?_
  rintro later reached _ rfl
  split
  · rename_i flavour items found
    have whole := later.closed (reached.1 _ inside) found
    exact Leads.pure fun value at_index => whole value (List.mem_of_getElem? at_index)
  · exact Leads.pure nofun

theorem encodeItems_passes {encodeOne : Value → Run Json} {address : Address}
    (each : ∀ later, scene ≤ later → ∀ value : Value, value.In later → Passes later (encodeOne value)) :
    ∀ bound index later, scene ≤ later → later.region address →
      Passes later (encodeItems encodeOne address bound index) := by
  intro bound
  induction bound with
  | zero =>
      intro index later _ _
      exact Leads.pure trivial
  | succ bound ih =>
      intro index later reached inside
      refine Leads.bind (item?_leads inside index) ?_
      intro middle further item held
      split
      · rename_i value
        refine Leads.bind_passes (each middle (le_trans reached further) value (held value rfl)) ?_
        intro last beyond _
        have path := le_trans further beyond
        refine Leads.bind_passes (ih (index + 1) last (le_trans reached path) (path.1 _ inside)) ?_
        intro _ _ _
        exact Leads.pure trivial
      · exact Leads.pure trivial

theorem encodeFrom_passes {display : Nat → Value → Run Text}
    (shown : ∀ later, scene ≤ later → ∀ value : Value, value.In later → ∀ depth,
      Passes later (display depth value)) :
    ∀ depth entered later, scene ≤ later → ∀ value : Value, value.In later →
      Passes later (encodeFrom display depth entered value) := by
  intro depth
  induction depth with
  | zero =>
      intro entered later reached value within
      have leaf := ofLeaf_passes (shown later reached value within 0)
      cases value with
      | object address => exact Leads.throw _
      | _ => exact leaf
  | succ depth ih =>
      intro entered later reached value within
      have leaf (stage : Scene templates) (further : later ≤ stage) :
          Passes stage (ofLeaf display (depth + 1) value) :=
        ofLeaf_passes (shown stage (le_trans reached further) value (within.mono further) _)
      cases value with
      | object address =>
          refine Leads.bind (Leads.node? address) ?_
          rintro middle further _ rfl
          have inside := further.1 _ (within address rfl)
          have onwards := le_trans reached further
          split
          · split
            · exact leaf middle further
            split
            · exact Leads.pure trivial
            split
            · exact Leads.throw _
            · refine Leads.bind_passes (encodeItems_passes ?_ _ 0 middle (le_refl _) inside) ?_
              · intro last beyond part held
                exact ih _ last (le_trans onwards beyond) part held
              · intro _ _ _
                exact Leads.pure trivial
          · rename_i flavour entries found
            have whole := middle.closed inside found
            split
            · exact leaf middle further
            split
            · exact Leads.throw _
            · refine Leads.bind_passes (Leads.mapM entries ?_) ?_
              · rintro ⟨key, item⟩ member last beyond
                have held : item.In middle :=
                  whole item (List.mem_flatMap.mpr ⟨_, member, by simp⟩)
                refine Leads.bind Leads.store ?_
                rintro stage onto _ rfl
                refine Leads.bind_passes (Leads.ofExcept_passes _) ?_
                intro named again _
                have path := le_trans beyond (le_trans onto again)
                refine Leads.bind_passes (ih _ named (le_trans onwards path) item (held.mono path)) ?_
                intro _ _ _
                exact Leads.pure trivial
              · intro _ _ _
                exact Leads.pure trivial
          · exact leaf middle further
      | _ => exact leaf later (le_refl _)

end Json

theorem coerce_passes (passes : reentry.Passes templates) {value : Value} (within : value.In scene) :
    Passes scene (value.coerce reentry) := by
  have shown (later : Scene templates) (reached : scene ≤ later) (depth : Nat) :
      Passes later (value.display reentry depth) := display_passes passes (within.mono reached) depth
  have composite (later : Scene templates) (reached : scene ≤ later) (depth : Nat) :
      Passes later (value.compositeText reentry depth) := by
    have encoded : Passes later (Json.encode (Value.display reentry) depth value) :=
      Json.encodeFrom_passes (fun _ _ _ held depth => display_passes passes held depth) depth [] later
        (le_refl _) value (within.mono reached)
    refine Leads.tryCatch (Leads.bind_passes encoded ?_) ?_
    · intro _ _ _
      exact Leads.pure trivial
    · intro stage further failure
      split
      · exact shown stage (le_trans reached further) depth
      · exact Leads.throw failure
  unfold Value.coerce
  split
  · exact Leads.pure trivial
  · exact Leads.pure trivial
  · exact Leads.pure trivial
  · exact Leads.pure trivial
  · refine Leads.bind_passes Leads.world.passes ?_
    intro later reached world
    split
    · exact composite later reached _
    · exact composite later reached _
    · exact shown later reached _
    · exact shown later reached _
    · exact shown later reached _

theorem stepIndex_within {region : Region} {world : World} {value : Value} {key : Key} {index : Nat}
    {expression : Text} {item : Value}
    (closed : ∀ {address node}, region address → world.store[address]? = some node →
      Node.Within region node)
    (within : value.Within region)
    (found : stepIndex world.store value key index expression = .ok item) : item.Within region := by
  unfold stepIndex at found
  dsimp only at found
  split at found
  · cases found
  split at found
  · cases found
  split at found
  · rename_i there
    cases found
    cases value with
    | object address =>
        simp only [Value.item?] at there
        split at there
        · rename_i stored
          exact closed (within address rfl) stored _ (List.mem_of_getElem? there)
        · cases there
    | range =>
        simp only [Value.item?] at there
        split at there
        · cases there
          exact Value.within_of_immediate rfl
        · cases there
    | segments parts =>
        obtain ⟨part, _, rfl⟩ := Option.map_eq_some_iff.mp there
        exact Value.within_of_immediate rfl
    | diagnostics reports =>
        obtain ⟨report, _, rfl⟩ := Option.map_eq_some_iff.mp there
        exact Value.within_of_immediate rfl
    | _ => cases there
  · cases found

theorem entry?_within {value item : Value} (within : value.In scene) {name : Text}
    (found : value.entry? scene.world.store name = some item) : item.In scene := by
  cases value with
  | object address =>
      simp only [Value.entry?] at found
      split at found
      · rename_i flavour entries stored
        obtain ⟨_, _, split, _⟩ := List.lookup_eq_some_iff.mp found
        refine scene.closed (within address rfl) stored item
          (List.mem_flatMap.mpr ⟨(.text name, item), ?_, ?_⟩)
        · rw [split]
          simp
        · simp
      · cases found
  | _ => cases found

theorem step_leads (passes : reentry.Passes templates) (settings : Settings) (expression : Text)
    {value : Value} (within : value.In scene) (key : Key) :
    Leads scene Value.In (step reentry settings expression value key) := by
  unfold step
  split
  · refine Leads.bind Leads.store ?_
    rintro later reached _ rfl
    exact Leads.ofExcept fun item found =>
      stepIndex_within later.closed (Value.Within.mono reached.1 within) found
  · refine Leads.bind Leads.store ?_
    rintro later reached _ rfl
    have within := within.mono reached
    split
    · refine Leads.pure ?_
      cases found : value.entry? later.world.store key.raw with
      | none => exact Value.within_of_immediate rfl
      | some item => exact entry?_within within found
    · refine Leads.bind Leads.store ?_
      rintro last further _ rfl
      dsimp only
      split
      · exact Leads.throw _
      · refine Leads.bind (access_leads passes (within.mono further) key.raw) ?_
        intro _ _ found held
        split
        · exact Leads.pure held
        · exact Leads.throw _
        · exact Leads.throw _
    · exact Leads.throw _

theorem resolve_leads (passes : reentry.Passes templates) (settings : Settings) {binding : Value}
    (within : binding.In scene) (expression : Text) :
    Leads scene Value.In (resolve reentry settings binding expression) := by
  refine Leads.bind_passes (Leads.ofExcept_passes _) ?_
  intro later reached parsed
  refine Leads.bind (Leads.foldlM parsed.keys (within.mono reached) ?_) ?_
  · intro key _ stage _ value held
    exact step_leads passes settings expression held key
  · intro middle _ found held
    refine Leads.bind Leads.store ?_
    rintro last further _ rfl
    refine Leads.bind_passes (Leads.note nofun) ?_
    intro _ beyond _
    exact Leads.pure ((held.mono further).mono beyond)

theorem renderExpression_leads (passes : reentry.Passes templates) (settings : Settings)
    {binding : Value} (within : binding.In scene) (expression : Text) :
    Leads scene (fun _ given => ∀ diagnostic ∈ given.2, diagnostic.IsMade)
      (renderExpression reentry settings binding expression) := by
  refine Leads.bind (resolve_leads passes settings within expression) ?_
  intro later reached value held
  refine Leads.bind Leads.store ?_
  rintro middle further _ rfl
  refine Leads.bind_passes (coerce_passes passes (held.mono further)) ?_
  intro _ _ text
  refine Leads.pure ?_
  intro diagnostic member
  split at member
  · cases member
  · exact ⟨expression, _, List.mem_singleton.mp member⟩

theorem renderAllWith_leads {expand : Text → Run (Text × List Diagnostic)} (segments : List Segment) :
    ∀ scene : Scene templates,
      (∀ later, scene ≤ later → ∀ expression,
        Leads later (fun _ given => ∀ diagnostic ∈ given.2, diagnostic.IsMade) (expand expression)) →
      Leads scene (fun _ given => ∀ diagnostic ∈ given.2, diagnostic.IsMade)
        (renderAllWith expand segments) := by
  have both {first later : List Diagnostic} (made : ∀ diagnostic ∈ first, diagnostic.IsMade)
      (others : ∀ diagnostic ∈ later, diagnostic.IsMade) :
      ∀ diagnostic ∈ first ++ later, diagnostic.IsMade := by
    intro diagnostic member
    rcases List.mem_append.mp member with member | member
    · exact made diagnostic member
    · exact others diagnostic member
  induction segments using sequenceInduction with
  | nil =>
      intro scene _
      exact Leads.pure nofun
  | literal text rest ih =>
      intro scene each
      have head : Leads scene (fun _ given => ∀ diagnostic ∈ given.2, diagnostic.IsMade)
          ((Segment.literal text).renderWith expand) := Leads.pure nofun
      refine Leads.bind head ?_
      rintro later reached ⟨_, first⟩ made
      refine Leads.bind (ih later fun stage further => each stage (le_trans reached further)) ?_
      rintro _ _ ⟨_, others⟩ beside
      exact Leads.pure (both made beside)
  | placeholder children rest childrenIH restIH =>
      intro scene each
      have head : Leads scene (fun _ given => ∀ diagnostic ∈ given.2, diagnostic.IsMade)
          ((Segment.placeholder children).renderWith expand) := by
        refine Leads.bind (childrenIH scene each) ?_
        rintro later reached ⟨expression, inner⟩ made
        refine Leads.bind (each later reached expression) ?_
        rintro _ _ ⟨_, own⟩ beside
        exact Leads.pure (both made beside)
      refine Leads.bind head ?_
      rintro later reached ⟨_, first⟩ made
      refine Leads.bind (restIH later fun stage further => each stage (le_trans reached further)) ?_
      rintro _ _ ⟨_, others⟩ beside
      exact Leads.pure (both made beside)

theorem render_leads (passes : reentry.Passes templates) (settings : Settings)
    (segments : List Segment) {binding : Value} (within : binding.In scene) :
    Leads scene (fun _ rendering => ∀ diagnostic ∈ rendering.diagnostics, diagnostic.IsMade)
      (render reentry settings segments binding) := by
  rw [render, renderLoop_eq_renderAllWith]
  refine Leads.bind (renderAllWith_leads segments scene ?_) ?_
  · intro later reached expression
    exact renderExpression_leads passes settings (within.mono reached) expression
  · rintro _ _ ⟨_, diagnostics⟩ made
    exact Leads.pure made

theorem emit_passes (allowed : templates) (settings : Settings) (diagnostic : Diagnostic) :
    Passes scene (emit settings diagnostic) := by
  have warned (stage : Scene templates) : Passes stage (do
      if settings.emitWarnings then
        if (← Run.world).strict then throw (.nonScalar diagnostic.expression diagnostic.kind.word)
        else Run.note (.warning diagnostic.expression diagnostic.kind.word diagnostic.message)) := by
    split
    · refine Leads.bind Leads.world ?_
      rintro _ _ world rfl
      split
      · exact Leads.throw _
      · exact Leads.note fun _ => allowed
    · exact Leads.pure trivial
  unfold emit
  dsimp only
  split
  · refine Leads.bind_passes (Leads.note fun _ => allowed) ?_
    intro later _ _
    exact warned later
  · exact warned scene

theorem format_passes (allowed : templates) (passes : reentry.Passes templates) (settings : Settings)
    (segments : List Segment) {binding : Value} (within : binding.In scene) :
    Passes scene (format reentry settings segments binding) := by
  refine Leads.bind_passes (render_leads passes settings segments within).passes ?_
  intro later _ rendering
  refine Leads.bind_passes (Leads.forM _ ?_) ?_
  · intro diagnostic _ stage _
    exact emit_passes allowed settings diagnostic
  · intro _ _ _
    exact Leads.pure trivial

end

section

variable {scene : Scene True} {reentry : Reentry}

theorem template_leads (address : Address) :
    Leads scene (fun later template => later.world.store[address]? = some (.template template))
      (Run.template address) := by
  refine Leads.bind (Leads.node? address) ?_
  rintro later _ _ rfl
  split
  · rename_i found
    exact Leads.pure found
  · exact Leads.throw _

theorem selected_within {template : Template} {binding chosen : Value} (given : binding.In scene)
    (held : template.binding.In scene) (selected : template.selectBinding binding = .ok chosen) :
    chosen.In scene := by
  unfold Template.selectBinding at selected
  split at selected
  · cases selected
    exact given
  split at selected
  · cases selected
    exact held
  · cases selected

theorem formatWith_passes (passes : reentry.Passes True) {template : Template} {binding : Value}
    (given : binding.In scene) (held : template.binding.In scene) :
    Passes scene (template.formatWith reentry binding) := by
  refine Leads.bind (Leads.ofExcept fun _ => selected_within given held) ?_
  intro later _ chosen within
  refine Leads.bind_passes (inForce_passes template.settings) ?_
  intro last further settings
  exact format_passes trivial passes settings template.segments (within.mono further)

theorem renderWith_passes (passes : reentry.Passes True) {template : Template} {binding : Value}
    (given : binding.In scene) (held : template.binding.In scene) :
    Passes scene (template.renderWith reentry binding) := by
  refine Leads.bind (Leads.ofExcept fun _ => selected_within given held) ?_
  intro later _ chosen within
  refine Leads.bind_passes (inForce_passes template.settings) ?_
  intro last further settings
  exact (render_leads passes settings template.segments (within.mono further)).passes

theorem ofDepth_passes (depth : Nat) : (Reentry.ofDepth depth).Passes True := by
  induction depth with
  | zero => exact ⟨fun _ _ _ _ _ => Leads.throw _, fun _ _ _ _ _ => Leads.throw _⟩
  | succ depth ih =>
      have held {stage : Scene True} {address : Address} {template : Template}
          (inside : stage.region address)
          (found : stage.world.store[address]? = some (.template template)) :
          template.binding.In stage := stage.closed inside found _ List.mem_cons_self
      constructor
      · intro scene address _ inside _
        refine Leads.bind (template_leads address) ?_
        intro later reached template found
        exact formatWith_passes ih (Value.within_of_immediate rfl) (held (reached.1 _ inside) found)
      · intro scene address _ inside _
        refine Leads.bind (template_leads address) ?_
        intro later reached template found
        exact renderWith_passes ih (Value.within_of_immediate rfl) (held (reached.1 _ inside) found)

end
end Stencil
