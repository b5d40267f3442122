import Stencil.Proofs.Journal.Rendering
import Stencil.Proofs.Path.Joining
import Stencil.Proofs.Settings.History

/-! Resolving expressions joined by a dot is resolving the first and then the second against what it gives,
up to the expression that a failure quotes and to what is noted of findings on the way. -/

namespace Stencil

open Run

/-- A failure, and the same with another expression quoted: `whole` in the one, one of `parts` in the
other. -/
inductive Failure.Requotes (whole : Text) (parts : List Text) : Failure → Failure → Prop
  | same (failure : Failure) : Requotes whole parts failure failure
  | typeMismatch {part : Text} (member : part ∈ parts) (key expected actual : Text) :
      Requotes whole parts (.typeMismatch key whole expected actual)
        (.typeMismatch key part expected actual)
  | indexOutOfRange {part : Text} (member : part ∈ parts) (key : Text) (index length : Int) :
      Requotes whole parts (.indexOutOfRange key whole index length)
        (.indexOutOfRange key part index length)
  | privateAccessor {part : Text} (member : part ∈ parts) (key actual : Text) :
      Requotes whole parts (.privateAccessor key whole actual) (.privateAccessor key part actual)

inductive SameButQuoted {α : Type} (whole : Text) (parts : List Text) :
    Except Failure α → Except Failure α → Prop
  | ok (value : α) : SameButQuoted whole parts (.ok value) (.ok value)
  | error {first second : Failure} : first.Requotes whole parts second →
      SameButQuoted whole parts (.error first) (.error second)

section

variable {α β γ : Type} {whole part : Text} {parts : List Text} {known : Known}

/-- From worlds that resemble each other two runs come to the same end, but for the expression quoted. -/
def Run.Quotes (whole : Text) (parts : List Text) (known : Known) (left right : Run α) : Prop :=
  ∀ one other, Resembling known one other →
    ∃ later, known ≤ later ∧ Resembling later (left.outcome one).2 (right.outcome other).2 ∧
      SameButQuoted whole parts (left.outcome one).1 (right.outcome other).1

namespace Run.Quotes

theorem of_ignoresJournal {action : Run α} (ignores : IgnoresJournal action) :
    Quotes whole parts known action action := by
  intro one other resembling
  obtain ⟨later, reached, after, same⟩ := ignores known one other resembling
  refine ⟨later, reached, after, ?_⟩
  rw [same.eq]
  cases (action.outcome other).1 with
  | ok value => exact .ok value
  | error failure => exact .error (.same failure)

theorem ofExcept {first second : Except Failure α} (same : SameButQuoted whole parts first second) :
    Quotes whole parts known (Run.ofExcept first) (Run.ofExcept second) := by
  intro one other resembling
  rw [outcome_ofExcept, outcome_ofExcept]
  exact ⟨known, le_refl _, resembling, same⟩

theorem throw {first second : Failure} (same : first.Requotes whole parts second) :
    Quotes whole parts known (MonadExcept.throw first : Run α) (MonadExcept.throw second) :=
  ofExcept (.error same)

theorem bind {left right : Run α} {next after : α → Run β} (head : Quotes whole parts known left right)
    (tail : ∀ later, known ≤ later → ∀ value, Quotes whole parts later (next value) (after value)) :
    Quotes whole parts known (left >>= next) (right >>= after) := by
  intro one other resembling
  obtain ⟨middle, reached, resembling, same⟩ := head one other resembling
  rw [outcome_bind, outcome_bind]
  generalize left.outcome one = leftEnd at *
  generalize right.outcome other = rightEnd at *
  obtain ⟨leftResult, leftWorld⟩ := leftEnd
  obtain ⟨rightResult, rightWorld⟩ := rightEnd
  dsimp only at resembling same
  cases same with
  | ok value =>
      obtain ⟨later, further, resembling, same⟩ := tail middle reached value _ _ resembling
      exact ⟨later, le_trans reached further, resembling, same⟩
  | error same => exact ⟨middle, reached, resembling, .error same⟩

theorem foldlM {step other : α → γ → Run α}
    (each : ∀ known value item, Quotes whole parts known (step value item) (other value item))
    (items : List γ) :
    ∀ known first, Quotes whole parts known (items.foldlM step first) (items.foldlM other first) := by
  induction items with
  | nil =>
      intro known first
      rw [List.foldlM_nil, List.foldlM_nil]
      exact ofExcept (.ok first)
  | cons item rest ih =>
      intro known first
      rw [List.foldlM_cons, List.foldlM_cons]
      exact bind (each known first item) fun later _ value => ih later value

end Run.Quotes

def noteFinding (expression : Text) (found : Value) : Run Value := do
  let kind := found.kind (← Run.store)
  Run.log .debug .resolver
    ("Resolved '".toList ++ expression ++ "' to ".toList ++ kind.word ++ " value".toList)
  return found

theorem outcome_noteFinding (expression : Text) (found : Value) (world : World) :
    ∃ told : Event, told.isFinding = true ∧
      (noteFinding expression found).outcome world = (.ok found, world.noting [told]) :=
  ⟨_, rfl, rfl⟩

theorem resolve_of_readable {expression : Text} (readable : Expression.Readable expression)
    (reentry : Reentry) (settings : Settings) (binding : Value) :
    resolve reentry settings binding expression = (do
      let found ← walk reentry settings expression binding (Expression.keysOf expression)
      noteFinding expression found) := by
  rw [resolve, Expression.parse_of_readable readable]
  rfl

theorem noteFinding_quotes (expression another : Text) (found : Value) :
    Quotes whole parts known (noteFinding expression found) (noteFinding another found) := by
  rintro one other ⟨resembles, default⟩
  obtain ⟨told, finding, noted⟩ := outcome_noteFinding expression found one
  obtain ⟨told', finding', noted'⟩ := outcome_noteFinding another found other
  rw [noted, noted']
  have after := ((resembles.noting_finding finding').symm.noting_finding finding).symm
  exact ⟨known, le_refl _, ⟨after, default⟩, .ok found⟩

theorem quotes_noteFinding_bind {left : Run α} {next : Value → Run α} {found : Value}
    (same : Quotes whole parts known left (next found)) (expression : Text) :
    Quotes whole parts known left (noteFinding expression found >>= next) := by
  rintro one other ⟨resembles, default⟩
  obtain ⟨told, finding, noted⟩ := outcome_noteFinding expression found other
  rw [outcome_bind, noted]
  exact same one _ ⟨resembles.noting_finding finding, default⟩

theorem exists_outcome_inForce (own : Option Settings) (world : World) :
    ∃ settings after, (Settings.inForce own).outcome world = (.ok settings, after) ∧
      own.or after.settings = some settings := by
  cases own with
  | some settings => exact ⟨settings, world, rfl, rfl⟩
  | none =>
      cases default : world.settings with
      | some settings =>
          exact ⟨settings, world, Settings.outcome_current_of_some default, default⟩
      | none => exact ⟨_, _, Settings.outcome_inForce_of_unknown default, rfl⟩

theorem outcome_inForce_of_known {own : Option Settings} {settings : Settings} {world : World}
    (inForce : own.or world.settings = some settings) :
    (Settings.inForce own).outcome world = (.ok settings, world) := by
  cases own with
  | some given =>
      cases inForce
      rfl
  | none => exact Settings.outcome_current_of_some inForce

theorem quotes_inForce_bind {own : Option Settings} {next after : Settings → Run α}
    (tail : ∀ later, ∀ settings, own.or later.settings = some settings →
      Quotes whole parts later (next settings) (after settings)) :
    Quotes whole parts known (Settings.inForce own >>= next) (Settings.inForce own >>= after) := by
  intro one other resembling
  obtain ⟨middle, reached, resembling, same⟩ := inForce_ignoresJournal own known one other resembling
  obtain ⟨settings, leftWorld, loaded, inForce⟩ := exists_outcome_inForce own one
  obtain ⟨others, rightWorld, loaded', _⟩ := exists_outcome_inForce own other
  rw [outcome_bind, outcome_bind]
  rw [loaded, loaded'] at resembling same ⊢
  cases same with
  | ok equal =>
      cases equal
      rw [resembling.2] at inForce
      obtain ⟨later, further, resembling, same⟩ := tail middle settings inForce _ _ resembling
      exact ⟨later, le_trans reached further, resembling, same⟩

theorem quotes_known_inForce_bind {own : Option Settings} {settings : Settings} {left : Run α}
    {next : Settings → Run α} (inForce : own.or known.settings = some settings)
    (same : Quotes whole parts known left (next settings)) :
    Quotes whole parts known left (Settings.inForce own >>= next) := by
  intro one other resembling
  have default : other.settings = known.settings := resembling.1.settings.symm.trans resembling.2
  rw [outcome_bind, outcome_inForce_of_known (default ▸ inForce)]
  exact same one other resembling

end

section

variable {whole part : Text} {parts : List Text} {known : Known} {reentry : Reentry}

theorem stepIndex_quotes (member : part ∈ parts) (store : Store) (node : Value) (key : Key)
    (index : Nat) :
    SameButQuoted whole parts (stepIndex store node key index whole)
      (stepIndex store node key index part) := by
  unfold stepIndex
  dsimp only
  split
  · exact .error (.typeMismatch member _ _ _)
  · split
    · exact .error (.same _)
    · split
      · exact .ok _
      · exact .error (.indexOutOfRange member _ _ _)

theorem stepAccessor_quotes (ignores : reentry.IgnoresJournal) (settings : Settings)
    (member : part ∈ parts) (node : Value) (name : Text) :
    Quotes whole parts known (stepAccessor reentry settings node name whole)
      (stepAccessor reentry settings node name part) := by
  refine Quotes.bind (.of_ignoresJournal .store) fun later _ store => ?_
  dsimp only
  split
  · intro one other resembling
    exact ⟨later, le_refl _, resembling, .error (.privateAccessor member _ _)⟩
  · refine Quotes.bind (.of_ignoresJournal (access_ignoresJournal ignores node name)) ?_
    intro last _ found
    cases found with
    | value found => exact .ofExcept (.ok found)
    | missing => exact .throw (.typeMismatch member _ _ _)
    | needsArguments => exact .throw (.typeMismatch member _ _ _)

theorem step_quotes (ignores : reentry.IgnoresJournal) (settings : Settings) (member : part ∈ parts)
    (known : Known) (node : Value) (key : Key) :
    Quotes whole parts known (step reentry settings whole node key)
      (step reentry settings part node key) := by
  unfold step
  split
  · refine Quotes.bind (.of_ignoresJournal .store) fun later _ store => ?_
    exact .ofExcept (stepIndex_quotes member store node key _)
  · refine Quotes.bind (.of_ignoresJournal .store) fun later _ store => ?_
    split
    · exact .ofExcept (.ok _)
    · exact stepAccessor_quotes ignores settings member node key.raw
    · exact .throw (.typeMismatch member _ _ _)

theorem walk_quotes (ignores : reentry.IgnoresJournal) (settings : Settings) (member : part ∈ parts)
    (known : Known) (node : Value) (keys : List Key) :
    Quotes whole parts known (walk reentry settings whole node keys)
      (walk reentry settings part node keys) :=
  Quotes.foldlM (step_quotes ignores settings member) keys known node

/-- Two runs come to the same end: they give the same or fail alike, but for the expression quoted, and
they leave worlds that are told apart at most by lines about what expressions have found. -/
structure SameEnd {α : Type} (whole : Text) (parts : List Text)
    (first second : Except Failure α × World) : Prop where
  result : SameButQuoted whole parts first.1 second.1
  world : first.2.Resembles second.2

theorem Run.Quotes.sameEnd {α : Type} {left right : Run α}
    (quotes : ∀ known, Quotes whole parts known left right) (world : World) :
    SameEnd whole parts (left.outcome world) (right.outcome world) := by
  obtain ⟨later, _, resembling, same⟩ := quotes ⟨world.settings⟩ world world ⟨.refl world, rfl⟩
  exact ⟨same, resembling.1⟩

def resolveInTurn (reentry : Reentry) (own : Option Settings) (binding : Value)
    (first second : Text) : Run Value := do
  let middle ← resolveUnder reentry own binding first
  resolveUnder reentry own middle second

theorem resolveInTurn_quotes (ignores : reentry.IgnoresJournal) (own : Option Settings)
    (binding : Value) {first second : Text} (keys : Expression.pieces whole =
      Expression.pieces first ++ Expression.pieces second)
    (readable : Expression.Readable first) (readable' : Expression.Readable second) :
    Quotes whole [first, second] known (resolveUnder reentry own binding whole)
      (resolveInTurn reentry own binding first second) := by
  have readableWhole : Expression.Readable whole := by
    intro raw member
    rw [keys] at member
    exact (List.mem_append.mp member).elim (readable raw) (readable' raw)
  have split : Expression.keysOf whole = Expression.keysOf first ++ Expression.keysOf second := by
    rw [Expression.keysOf, keys, List.map_append]
    rfl
  unfold resolveInTurn resolveUnder
  rw [bind_assoc]
  refine quotes_inForce_bind fun later settings inForce => ?_
  rw [resolve_of_readable readableWhole, resolve_of_readable readable, split, walk_append]
  rw [bind_assoc, bind_assoc]
  refine Quotes.bind (walk_quotes ignores settings (by simp) later binding _) ?_
  intro after grown middle
  refine quotes_noteFinding_bind ?_ first
  have still : own.or after.settings = some settings := by
    cases own with
    | some given => exact inForce
    | none => exact grown settings inForce
  refine quotes_known_inForce_bind still ?_
  rw [resolve_of_readable readable']
  refine Quotes.bind (walk_quotes ignores settings (by simp) after middle _) ?_
  intro last _ found
  exact noteFinding_quotes whole second found

theorem resolveUnder_quotes (ignores : reentry.IgnoresJournal) (own : Option Settings)
    (binding : Value) (keys : Expression.pieces whole = Expression.pieces part) :
    Quotes whole [part] known (resolveUnder reentry own binding whole)
      (resolveUnder reentry own binding part) := by
  refine quotes_inForce_bind fun later settings _ => ?_
  by_cases readable : Expression.Readable part
  · have readableWhole : Expression.Readable whole := by
      rw [Expression.Readable, keys]
      exact readable
    rw [resolve_of_readable readableWhole, resolve_of_readable readable, Expression.keysOf, keys]
    refine Quotes.bind (walk_quotes ignores settings (by simp) later binding _) ?_
    intro last _ found
    exact noteFinding_quotes whole part found
  · have unread (failure : Failure) (failed : Expression.parse part = .error failure) :
        Expression.parse whole = .error failure := by
      rw [Expression.parse_eq] at failed ⊢
      rw [keys]
      cases found : (Expression.pieces part).find? Key.isTooLong with
      | some raw => simpa only [found] using failed
      | none => simp [found] at failed
    obtain ⟨_, _, _, failed⟩ := Expression.parse_of_not_readable readable
    rw [resolve, resolve, failed, unread _ failed]
    exact .throw (.same _)

/-- Resolving a path and a rest joined by a dot is resolving the path and then the rest against what it
gives. Dots at the end of a path and a format spec behind it have no effect. -/
theorem resolve_joined (depth : Nat) (own : Option Settings) (binding : Value) (world : World) :
    (∀ path rest : Text, path ≠ [] → ':' ∉ path → path.getLast? ≠ some '.' →
      Expression.Readable path → Expression.Readable rest →
        SameEnd (path ++ '.' :: rest) [path, rest]
          ((resolveUnder (.ofDepth depth) own binding (path ++ '.' :: rest)).outcome world)
          ((resolveInTurn (.ofDepth depth) own binding path rest).outcome world)) ∧
      ∀ path : Text, ':' ∉ path → ∀ count spec,
        SameEnd (path ++ List.replicate count '.' ++ ':' :: spec) [path]
          ((resolveUnder (.ofDepth depth) own binding
            (path ++ List.replicate count '.' ++ ':' :: spec)).outcome world)
          ((resolveUnder (.ofDepth depth) own binding path).outcome world) := by
  have ignores := ofDepth_ignoresJournal depth
  constructor
  · intro path rest inhabited colonless dotless readable readable'
    exact Quotes.sameEnd (fun _ => resolveInTurn_quotes ignores own binding
      (Expression.pieces_append_cons inhabited colonless dotless rest) readable readable') world
  · intro path colonless count spec
    exact Quotes.sameEnd (fun _ => resolveUnder_quotes ignores own binding
      (Expression.pieces_append_spec colonless count spec)) world

def turning : World :=
  { World.empty with
    store :=
      #[.blueprint ⟨['C'], [⟨.method, "turn".toList, [], .gives (.object 2) [.integer 5]⟩]⟩,
        .record ⟨['C'], 0, [], none, .as ['c'], .is true, .is false, none⟩, .sequence .list [.integer 7]] }

theorem turning_resolves_in_turn :
    ((resolveUnder (.ofDepth 1) none (.object 1) "turn.1:x".toList).outcome turning).1 =
        .error (.indexOutOfRange ['1'] "turn.1:x".toList 1 1) ∧
      ((resolveInTurn (.ofDepth 1) none (.object 1) "turn".toList "1:x".toList).outcome turning).1 =
        .error (.indexOutOfRange ['1'] "1:x".toList 1 1) ∧
      SameEnd "turn.1:x".toList ["turn".toList, "1:x".toList]
        ((resolveUnder (.ofDepth 1) none (.object 1) "turn.1:x".toList).outcome turning)
        ((resolveInTurn (.ofDepth 1) none (.object 1) "turn".toList "1:x".toList).outcome turning) ∧
      SameEnd "turn..:a:b.c".toList ["turn".toList]
        ((resolveUnder (.ofDepth 1) none (.object 1) "turn..:a:b.c".toList).outcome turning)
        ((resolveUnder (.ofDepth 1) none (.object 1) "turn".toList).outcome turning) := by
  obtain ⟨joined, spaced⟩ := resolve_joined 1 none (.object 1) turning
  refine ⟨rfl, rfl, ?_, ?_⟩
  · exact joined "turn".toList "1:x".toList (by decide) (by decide) (by decide) (by decide) (by decide)
  · exact spaced "turn".toList (by decide) 2 "a:b.c".toList

end
end Stencil
