import Stencil.Libraries.Standard
import Stencil.Proofs.Run.Relation
import Stencil.Settings.Load

/-! What loading settings comes to: reading the file if there is one, then choosing the flag of each field. -/

namespace Stencil

open Run

namespace Settings

def choose (store : Store) (overrides : Overrides) (environment : Environment) (field : Field) :
    Except Failure Bool :=
  resolveFlag store (overrides.get field) (environment.get? field.variableName) (default.flag field)

def chooseAll (store : Store) (overrides : Overrides) (environment : Environment) :
    Except Failure Settings := do
  let emitWarnings ← choose store overrides environment .emitWarnings
  let logNonScalar ← choose store overrides environment .logNonScalar
  let allowPrivate ← choose store overrides environment .allowPrivate
  return ⟨emitWarnings, logNonScalar, allowPrivate⟩

def ofEnvironment (environment : Environment) : Settings :=
  ofFields fun field =>
    ((environment.get? field.variableName).bind flagOfText?).getD (default.flag field)

def told (settings : Settings) : Event :=
  .log .debug .settings ("Formatter config resolved: ".toList ++ settings.mappingText)

theorem chooseAll_nil (store : Store) (environment : Environment) :
    chooseAll store [] environment = .ok (ofEnvironment environment) := by
  rfl

theorem ofFields_flag (settings : Settings) : ofFields settings.flag = settings := by
  rfl

theorem chooseAll_eq_ok_iff {store : Store} {overrides : Overrides} {environment : Environment}
    {settings : Settings} :
    chooseAll store overrides environment = .ok settings ↔
      ∀ field, choose store overrides environment field = .ok (settings.flag field) := by
  constructor
  · intro chosen
    obtain ⟨emitWarnings, first, chosen⟩ := exists_of_bind_eq_ok chosen
    obtain ⟨logNonScalar, second, chosen⟩ := exists_of_bind_eq_ok chosen
    obtain ⟨allowPrivate, third, chosen⟩ := exists_of_bind_eq_ok chosen
    cases chosen
    intro field
    cases field <;> assumption
  · intro each
    simp only [chooseAll, each]
    rfl

theorem exists_choose_of_chooseAll_eq_error {store : Store} {overrides : Overrides}
    {environment : Environment} {failure : Failure}
    (failed : chooseAll store overrides environment = .error failure) :
    ∃ field, choose store overrides environment field = .error failure := by
  rcases bind_eq_error failed with first | ⟨_, _, failed⟩
  · exact ⟨_, first⟩
  rcases bind_eq_error failed with second | ⟨_, _, failed⟩
  · exact ⟨_, second⟩
  rcases bind_eq_error failed with third | ⟨_, _, failed⟩
  · exact ⟨_, third⟩
  · cases failed

theorem outcome_resolve (overrides : Overrides) (field : Field) (world : World) :
    (resolve overrides default field).outcome world =
      (choose world.store overrides world.environment field, world) := by
  rw [resolve, outcome_bind, outcome_world]
  exact outcome_ofExcept _ _

section

variable [Libraries]

def readInto (environment : Environment) : Option SettingsFile → Except Failure Unit × Environment
  | some file => Libraries.setVariables file.content environment
  | none => (.ok (), environment)

theorem build_nil (defaults : Libraries.GivesDefaults) : build [] = pure default := by
  rw [build, defaults]
  rfl

theorem build_ofFlags (keeps : Libraries.KeepsFlags) (settings : Settings) :
    build (.ofFlags settings.flag) = pure settings := by
  rw [build, keeps, ofFields_flag]
  rfl

theorem outcome_gather (defaults : Libraries.GivesDefaults) (keeps : Libraries.KeepsFlags)
    (overrides : Overrides) (world : World) :
    (gather overrides).outcome world =
      match chooseAll world.store overrides world.environment with
      | .ok settings => (.ok settings, world.noting [told settings])
      | .error failure => (.error failure, world) := by
  unfold gather chooseAll
  rw [build_nil defaults, pure_bind, outcome_bind, outcome_resolve]
  cases choose world.store overrides world.environment .emitWarnings with
  | error failure => rfl
  | ok emitWarnings =>
      dsimp only
      rw [outcome_bind, outcome_resolve]
      cases choose world.store overrides world.environment .logNonScalar with
      | error failure => rfl
      | ok logNonScalar =>
          dsimp only
          rw [outcome_bind, outcome_resolve]
          cases choose world.store overrides world.environment .allowPrivate with
          | error failure => rfl
          | ok allowPrivate =>
              dsimp only
              rw [build_ofFlags keeps, pure_bind]
              rfl

theorem exists_outcome_gather (defaults : Libraries.GivesDefaults) (keeps : Libraries.KeepsFlags)
    (overrides : Overrides) (world : World) :
    ∃ lines, (gather overrides).outcome world =
      (chooseAll world.store overrides world.environment, world.noting lines) := by
  rw [outcome_gather defaults keeps]
  cases chooseAll world.store overrides world.environment with
  | ok settings => exact ⟨_, rfl⟩
  | error failure => exact ⟨[], by simp only [World.noting, List.append_nil]⟩

theorem outcome_readFile (file : SettingsFile) (world : World) :
    ∃ lines, (readFile file).outcome world =
      ((readInto world.environment (some file)).1,
        { world with
          environment := (readInto world.environment (some file)).2
          journal := world.journal ++ lines }) := by
  let read := readInto world.environment (some file)
  let reached : World := { world with environment := read.2 }
  have unfolded : (readFile file).outcome world = (do
      Run.ofExcept read.1
      Run.log .debug .settings ("Loaded environment from ".toList ++ file.name)).outcome reached := rfl
  rw [unfolded, outcome_bind, outcome_ofExcept]
  change ∃ lines, _ = (read.1, reached.noting lines)
  cases read.1 with
  | ok => exact ⟨_, rfl⟩
  | error failure => exact ⟨[], by simp only [World.noting, List.append_nil]⟩

/-- A load ends as reading its file does, or else as choosing the flags does after that. -/
theorem outcome_load (defaults : Libraries.GivesDefaults) (keeps : Libraries.KeepsFlags)
    (overrides : Overrides) (file : Option SettingsFile) (world : World) :
    ∃ lines, (load overrides file).outcome world =
      ((do
          (readInto world.environment file).1
          chooseAll world.store overrides (readInto world.environment file).2),
        { world with
          environment := (readInto world.environment file).2
          journal := world.journal ++ lines }) := by
  cases file with
  | none => exact exists_outcome_gather defaults keeps overrides world
  | some file =>
      obtain ⟨first, read⟩ := outcome_readFile file world
      rw [load, outcome_bind, read]
      generalize readInto world.environment (some file) = ended
      obtain ⟨result, environment⟩ := ended
      cases result with
      | error failure => exact ⟨first, rfl⟩
      | ok =>
          obtain ⟨later, gathered⟩ := exists_outcome_gather defaults keeps overrides
            { world with environment, journal := world.journal ++ first }
          refine ⟨first ++ later, ?_⟩
          dsimp only
          rw [gathered, World.noting, List.append_assoc]
          rfl

theorem outcome_current_of_some {world : World} {settings : Settings}
    (known : world.settings = some settings) : current.outcome world = (.ok settings, world) := by
  rw [current, outcome_bind, outcome_world]
  dsimp only
  rw [known]
  rfl

theorem outcome_current_of_none (defaults : Libraries.GivesDefaults) (keeps : Libraries.KeepsFlags)
    {world : World} (unknown : world.settings = none) :
    current.outcome world =
      (.ok (ofEnvironment world.environment),
        { world.noting [told (ofEnvironment world.environment)] with
          settings := some (ofEnvironment world.environment) }) := by
  rw [current, outcome_bind, outcome_world]
  dsimp only
  rw [unknown]
  dsimp only
  have loaded : (load [] none).outcome world = (gather []).outcome world := rfl
  rw [outcome_bind, loaded, outcome_gather defaults keeps, chooseAll_nil]
  rfl

end

theorem standard_setsOnlyAbsent : Libraries.SetsOnlyAbsent := by
  intro content environment name value held
  change (environment.addFile content).get? name = some value
  rw [Environment.get?_addFile, held]
  rfl

theorem standard_givesDefaults : Libraries.GivesDefaults := by
  rfl

theorem standard_keepsFlags : Libraries.KeepsFlags := by
  intro flag
  rfl

theorem outcome_inForce_of_known {world : World} {settings : Settings}
    (known : world.settings = some settings) : (inForce none).outcome world = (.ok settings, world) :=
  outcome_current_of_some known

theorem outcome_inForce_of_unknown {world : World} (unknown : world.settings = none) :
    (inForce none).outcome world =
      (.ok (ofEnvironment world.environment),
        { world.noting [told (ofEnvironment world.environment)] with
          settings := some (ofEnvironment world.environment) }) :=
  outcome_current_of_none standard_givesDefaults standard_keepsFlags unknown

end Settings
end Stencil
