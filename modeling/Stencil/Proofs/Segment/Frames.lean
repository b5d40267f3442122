import Stencil.Proofs.Segment.Nesting

/-! The frames that compiling keeps are the groups around the place that it has come to. On one stack with
the whole sequence at the bottom, nothing is ever taken from an empty stack, and at the end the whole
sequence is all that is left. -/

namespace Stencil

structure Groups.Around (groups : Groups) (offset : Nat) (spans : List Span) : Prop where
  mem_iff : ∀ span, span ∈ spans ↔ groups.Has span ∧ span.start < offset ∧ offset < span.stop
  innermost : spans.Pairwise Span.Inside

theorem Groups.Laminar.start_lt {text : Text} {groups : Groups} (laminar : groups.Laminar text)
    {span : Span} (has : groups.Has span) : span.start + 1 < span.stop := by
  obtain ⟨_, close, ends, longer, _⟩ := laminar.braces has
  omega

namespace Groups.Around

variable {text : Text} {groups : Groups} {offset : Nat} {spans : List Span}

theorem initial (groups : Groups) : groups.Around 0 [] where
  mem_iff := by simp
  innermost := .nil

theorem later_stop (around : groups.Around offset spans)
    (waits : ∀ top ∈ spans.head?, top.stop ≠ offset + 1) {span : Span} (among : span ∈ spans) :
    offset + 1 < span.stop := by
  have reaches := ((around.mem_iff span).mp among).2.2
  cases spans with
  | nil => cases among
  | cons top outer =>
      have open_top : offset < top.stop := ((around.mem_iff top).mp List.mem_cons_self).2.2
      have different : top.stop ≠ offset + 1 := waits top rfl
      rcases List.mem_cons.mp among with rfl | below
      · omega
      · have inside := (List.pairwise_cons.mp around.innermost).1 span below
        have stops : top.stop < span.stop := inside.2
        omega

theorem stay (around : groups.Around offset spans)
    (waits : ∀ top ∈ spans.head?, top.stop ≠ offset + 1) (plain : groups[offset]? = none) :
    groups.Around (offset + 1) spans where
  mem_iff := by
    intro span
    constructor
    · intro among
      obtain ⟨has, behind, _⟩ := (around.mem_iff span).mp among
      exact ⟨has, by omega, around.later_stop waits among⟩
    · rintro ⟨has, behind, before⟩
      have different : span.start ≠ offset := by
        rintro rfl
        rw [Has, plain] at has
        cases has
      exact (around.mem_iff span).mpr ⟨has, by omega, by omega⟩
  innermost := around.innermost

theorem enter (laminar : groups.Laminar text) (around : groups.Around offset spans)
    (waits : ∀ top ∈ spans.head?, top.stop ≠ offset + 1) {stop : Nat}
    (opens : groups[offset]? = some stop) : groups.Around (offset + 1) (⟨offset, stop⟩ :: spans) where
  mem_iff := by
    intro span
    have own : groups.Has ⟨offset, stop⟩ := opens
    rw [List.mem_cons]
    constructor
    · rintro (rfl | among)
      · exact ⟨own, Nat.lt_succ_self offset, laminar.start_lt own⟩
      · obtain ⟨has, behind, _⟩ := (around.mem_iff span).mp among
        exact ⟨has, by omega, around.later_stop waits among⟩
    · rintro ⟨has, behind, before⟩
      by_cases same : span.start = offset
      · left
        obtain ⟨start, other⟩ := span
        dsimp only at same
        subst same
        rw [Has, opens, Option.some.injEq] at has
        rw [has]
      · exact Or.inr ((around.mem_iff span).mpr ⟨has, by omega, by omega⟩)
  innermost := by
    refine List.pairwise_cons.mpr ⟨?_, around.innermost⟩
    intro outer among
    obtain ⟨has, behind, before⟩ := (around.mem_iff outer).mp among
    have own : groups.Has ⟨offset, stop⟩ := opens
    have different : (⟨offset, stop⟩ : Span) ≠ outer := by
      rintro rfl
      exact Nat.lt_irrefl _ behind
    rcases laminar.nested own has different with apart | inside | holds
    · have longer := laminar.start_lt own
      simp only [Span.Apart] at apart longer
      omega
    · exact inside
    · have starts := holds.1
      dsimp only at starts
      omega

theorem leave (laminar : groups.Laminar text) {top : Span} (around : groups.Around offset (top :: spans))
    (closes : top.stop = offset + 1) : groups.Around (offset + 1) spans where
  mem_iff := by
    intro span
    obtain ⟨apart, _⟩ := List.pairwise_cons.mp around.innermost
    obtain ⟨topHas, _⟩ := (around.mem_iff top).mp List.mem_cons_self
    constructor
    · intro among
      obtain ⟨has, behind, _⟩ := (around.mem_iff span).mp (List.mem_cons_of_mem _ among)
      have stops : top.stop < span.stop := (apart span among).2
      exact ⟨has, by omega, by omega⟩
    · rintro ⟨has, behind, before⟩
      have different : span.start ≠ offset := by
        rintro rfl
        obtain ⟨⟨opening, _⟩, _⟩ := laminar.braces has
        obtain ⟨_, close, ends, _, closing, _⟩ := laminar.braces topHas
        obtain rfl : close = span.start := by omega
        rw [opening] at closing
        cases closing
      have among := (around.mem_iff span).mpr ⟨has, by omega, by omega⟩
      rcases List.mem_cons.mp among with rfl | below
      · omega
      · exact below
  innermost := (List.pairwise_cons.mp around.innermost).2

theorem eq_nil (around : groups.Around offset spans) (ended : ∀ span, groups.Has span → span.stop ≤ offset) :
    spans = [] := by
  rw [List.eq_nil_iff_forall_not_mem]
  intro span among
  obtain ⟨has, _, before⟩ := (around.mem_iff span).mp among
  have stop := ended span has
  omega

end Groups.Around

namespace Assembly

variable {text : Text} {groups : Groups} {offset : Nat} {assembly : Assembly}

def closes (assembly : Assembly) : List Nat :=
  assembly.frames.map Frame.close

/-- The frames are the groups around the offset, and each waits for the closing brace of its group. -/
def Mirrors (groups : Groups) (offset : Nat) (assembly : Assembly) (spans : List Span) : Prop :=
  groups.Around offset spans ∧ assembly.closes = spans.map fun span => span.stop - 1

theorem start_mirrors (groups : Groups) : Mirrors groups 0 start [] :=
  ⟨.initial groups, rfl⟩

theorem closes_add (assembly : Assembly) (segment : Segment) :
    (assembly.add segment).closes = assembly.closes := by
  obtain ⟨root, frames, pending⟩ := assembly
  cases frames <;> rfl

theorem closes_flush (assembly : Assembly) : assembly.flush.closes = assembly.closes := by
  simp only [flush]
  split
  · rfl
  · exact closes_add assembly _

theorem closes_leave (assembly : Assembly) : assembly.leave.closes = assembly.closes.tail := by
  obtain ⟨root, frames, pending⟩ := assembly
  cases frames with
  | nil => rfl
  | cons frame outer => exact closes_add _ _

theorem closesAt_iff (assembly : Assembly) (offset : Nat) :
    assembly.closesAt offset = true ↔ assembly.closes.head? = some offset := by
  obtain ⟨root, frames, pending⟩ := assembly
  cases frames <;> simp [closesAt, closes]

theorem step_mirrors (laminar : groups.Laminar text) {spans : List Span}
    (mirrors : Mirrors groups offset assembly spans) (c : Char) :
    ∃ after, Mirrors groups (offset + 1) (step groups offset c assembly) after := by
  obtain ⟨around, same⟩ := mirrors
  have head : assembly.closes.head? = spans.head?.map fun span => span.stop - 1 := by
    rw [same, List.head?_map]
  unfold step
  by_cases closing : assembly.closesAt offset = true
  · rw [if_pos closing]
    rw [closesAt_iff, head] at closing
    cases spans with
    | nil => cases closing
    | cons top outer =>
        have reaches := ((around.mem_iff top).mp List.mem_cons_self).2.2
        have stop : top.stop = offset + 1 := by
          simp only [List.head?_cons, Option.map_some, Option.some.injEq] at closing
          omega
        refine ⟨outer, around.leave laminar stop, ?_⟩
        rw [closes_leave, closes_flush, same]
        rfl
  · have waits : ∀ top ∈ spans.head?, top.stop ≠ offset + 1 := by
      intro top isTop ends
      rw [closesAt_iff, head, isTop] at closing
      simp [ends] at closing
    rw [if_neg closing]
    cases opens : groups[offset]? with
    | none => exact ⟨spans, around.stay waits opens, same⟩
    | some stop =>
        refine ⟨⟨offset, stop⟩ :: spans, around.enter laminar waits opens, ?_⟩
        rw [List.map_cons, ← same]
        exact congrArg _ (closes_flush assembly)

theorem run_mirrors (laminar : groups.Laminar text) (lead : Text) :
    ∀ {offset assembly spans}, Mirrors groups offset assembly spans →
      ∃ after, Mirrors groups (offset + lead.length) (run groups lead offset assembly) after := by
  induction lead with
  | nil => exact fun mirrors => ⟨_, mirrors⟩
  | cons c rest ih =>
      intro offset assembly spans mirrors
      obtain ⟨between, stepped⟩ := step_mirrors laminar mirrors c
      rw [List.length_cons, Nat.add_comm rest.length, ← Nat.add_assoc]
      exact ih stepped

end Assembly

/-- A sequence under construction on the stack: its finished children, newest first, and the offset of the
brace that closes it. The whole sequence has none. -/
structure Layer where
  children : List Segment
  close : Option Nat

structure Stack where
  layers : List Layer
  pending : Text

namespace Layer

def add (layer : Layer) (segment : Segment) : Layer :=
  { layer with children := segment :: layer.children }

def store (layer : Layer) (pending : Text) : Layer :=
  if pending.isEmpty then layer else layer.add (.literal pending.reverse)

end Layer

namespace Stack

def start : Stack := ⟨[⟨[], none⟩], []⟩

def step (groups : Groups) (offset : Nat) (c : Char) (stack : Stack) : Option Stack :=
  match stack.layers with
  | [] => none
  | top :: below =>
    if top.close = some offset then
      match below with
      | [] => none
      | next :: others =>
        let placeholder := Segment.placeholder (top.store stack.pending).children.reverse
        some ⟨next.add placeholder :: others, []⟩
    else match groups[offset]? with
      | some stop => some ⟨⟨[], some (stop - 1)⟩ :: top.store stack.pending :: below, []⟩
      | none => some { stack with pending := c :: stack.pending }

def run (groups : Groups) : Text → (offset : Nat) → Stack → Option Stack
  | [], _, stack => some stack
  | c :: rest, offset, stack => (step groups offset c stack).bind (run groups rest (offset + 1))

def finish (stack : Stack) : Option (List Segment) :=
  stack.layers.getLast?.map fun bottom => (bottom.store stack.pending).children.reverse

def ofAssembly (assembly : Assembly) : Stack :=
  ⟨assembly.frames.map (fun frame => ⟨frame.children, some frame.close⟩) ++ [⟨assembly.root, none⟩],
    assembly.pending⟩

theorem ofAssembly_flush (assembly : Assembly) :
    ∃ top below, ofAssembly assembly = ⟨top :: below, assembly.pending⟩ ∧
      ofAssembly assembly.flush = ⟨top.store assembly.pending :: below, []⟩ ∧
      ∀ offset, top.close = some offset ↔ assembly.closesAt offset = true := by
  obtain ⟨root, frames, pending⟩ := assembly
  cases frames with
  | nil =>
      refine ⟨_, _, rfl, ?_, ?_⟩
      · by_cases empty : pending = []
        · simp [ofAssembly, Assembly.flush, Layer.store, empty]
        · simp [ofAssembly, Assembly.flush, Assembly.add, Layer.store, Layer.add, empty]
      · simp [Assembly.closesAt]
  | cons frame outer =>
      refine ⟨_, _, rfl, ?_, ?_⟩
      · by_cases empty : pending = []
        · simp [ofAssembly, Assembly.flush, Layer.store, empty]
        · simp [ofAssembly, Assembly.flush, Assembly.add, Layer.store, Layer.add, empty]
      · simp [Assembly.closesAt]

theorem ofAssembly_leave {assembly : Assembly} {top : Layer} {below : List Layer} {pending : Text}
    (same : ofAssembly assembly = ⟨top :: below, pending⟩) {offset : Nat}
    (closing : assembly.closesAt offset = true) :
    ∃ next others, below = next :: others ∧
      ofAssembly assembly.leave =
        ⟨next.add (.placeholder top.children.reverse) :: others, pending⟩ := by
  obtain ⟨root, frames, waiting⟩ := assembly
  cases frames with
  | nil => cases closing
  | cons frame outer =>
      cases same
      cases outer with
      | nil => exact ⟨_, _, rfl, rfl⟩
      | cons next others => exact ⟨_, _, rfl, rfl⟩

theorem step_ofAssembly (groups : Groups) (offset : Nat) (c : Char) (assembly : Assembly) :
    step groups offset c (ofAssembly assembly) =
      some (ofAssembly (Assembly.step groups offset c assembly)) := by
  obtain ⟨top, below, same, stored, closes⟩ := ofAssembly_flush assembly
  rw [step, same]
  dsimp only
  unfold Assembly.step
  by_cases closing : assembly.closesAt offset = true
  · obtain ⟨next, others, rfl, left⟩ :=
      ofAssembly_leave stored ((Assembly.closesAt_flush assembly offset).trans closing)
    rw [if_pos ((closes offset).mpr closing), if_pos closing, left]
  · rw [if_neg (mt (closes offset).mp closing), if_neg closing]
    cases groups[offset]? with
    | none =>
        change some (Stack.mk (top :: below) (c :: assembly.pending)) =
          some ⟨(ofAssembly assembly).layers, c :: assembly.pending⟩
        rw [same]
    | some stop =>
        change some (Stack.mk (⟨[], some (stop - 1)⟩ :: top.store assembly.pending :: below) []) =
          some ⟨⟨[], some (stop - 1)⟩ :: (ofAssembly assembly.flush).layers, assembly.flush.pending⟩
        rw [stored, Assembly.pending_flush]

theorem run_ofAssembly (groups : Groups) (text : Text) :
    ∀ offset assembly, run groups text offset (ofAssembly assembly) =
      some (ofAssembly (Assembly.run groups text offset assembly)) := by
  induction text with
  | nil => exact fun _ _ => rfl
  | cons c rest ih =>
      intro offset assembly
      rw [run, step_ofAssembly, Option.bind_some, ih, Assembly.run]

theorem finish_ofAssembly (assembly : Assembly) :
    (ofAssembly assembly).finish = some assembly.finish := by
  obtain ⟨root, frames, pending⟩ := assembly
  rw [finish, ofAssembly, List.getLast?_concat]
  by_cases empty : pending = []
  · simp [Assembly.finish, Layer.store, empty]
  · simp [Assembly.finish, Layer.store, Layer.add, empty]

theorem layers_ofAssembly {assembly : Assembly} (frameless : assembly.frames = []) :
    (ofAssembly assembly).layers = [⟨assembly.root, none⟩] := by
  rw [ofAssembly, frameless]
  rfl

theorem closes_ofAssembly (assembly : Assembly) :
    (ofAssembly assembly).layers.map Layer.close = assembly.closes.map some ++ [none] := by
  simp [ofAssembly, Assembly.closes]

end Stack

/-- The groups of a text are laminar. At every place of the text the pass of compiling, made on one stack,
has taken nothing from an empty stack, and above the whole sequence stand the groups around that place,
innermost on top, each with the offset of its own closing brace. At the end the whole sequence stands
there alone, so that nothing is lost. -/
theorem groups_laminar_and_layers_mirror (text : Text) :
    (Groups.ofText text).Laminar text ∧
      (∀ lead rest, text = lead ++ rest →
        ∃ stack spans,
          Stack.run (Groups.ofText text) lead 0 .start = some stack ∧
            stack = .ofAssembly (Assembly.run (Groups.ofText text) lead 0 .start) ∧
            (Groups.ofText text).Around lead.length spans ∧
            stack.layers.map Layer.close =
              spans.map (fun span => some (span.stop - 1)) ++ [none]) ∧
      ∃ stack bottom,
        Stack.run (Groups.ofText text) text 0 .start = some stack ∧ stack.layers = [bottom] ∧
          stack.finish = some (compile text) := by
  have laminar := Groups.ofText_laminar text
  have ran (lead : Text) := Stack.run_ofAssembly (Groups.ofText text) lead 0 .start
  have mirrors (lead : Text) :=
    Assembly.run_mirrors laminar lead (Assembly.start_mirrors (Groups.ofText text))
  refine ⟨laminar, ?_, ?_⟩
  · rintro lead rest rfl
    obtain ⟨spans, around, closes⟩ := mirrors lead
    rw [Nat.zero_add] at around
    refine ⟨_, spans, ran lead, rfl, around, ?_⟩
    rw [Stack.closes_ofAssembly, closes, List.map_map]
    rfl
  · obtain ⟨spans, around, closes⟩ := mirrors text
    have none : spans = [] := around.eq_nil fun span has => by
      have bounds := Groups.bounds_of_getElem?_ofText has
      omega
    subst none
    have frameless := List.map_eq_nil_iff.mp closes
    exact ⟨_, _, ran text, Stack.layers_ofAssembly frameless, Stack.finish_ofAssembly _⟩

end Stencil
