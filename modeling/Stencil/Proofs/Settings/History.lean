import Stencil.Proofs.Settings.Loading

/-! The process default over the whole life of a program. It is what was installed last; where nothing is
installed, it is loaded when it is first asked for, and stays as it was loaded. -/

namespace Stencil

open Run

namespace Settings

structure Query where
  request : Request
  world : World

def lastInstalled (given : Option Settings) : List Query → Option Settings
  | [] => given
  | ⟨.install settings, _⟩ :: _ => settings
  | ⟨.current, _⟩ :: past | ⟨.load _ _, _⟩ :: past => lastInstalled given past

def firstAsked : List Query → Option World
  | [] | ⟨.install _, _⟩ :: _ => none
  | ⟨.current, world⟩ :: past => some ((firstAsked past).getD world)
  | ⟨.load _ _, _⟩ :: past => firstAsked past

/-- The process default after a request. -/
def defaultAfter (before : World) : Request → Option Settings
  | .install settings => settings
  | .current => some (before.settings.getD (ofEnvironment before.environment))
  | .load _ _ => before.settings

/-- The process default, if it is known, is what was installed last or else what the variables made up
when it was first asked for. -/
def knownDefault (given : Option Settings) (past : List Query) : Option Settings :=
  (lastInstalled given past).or ((firstAsked past).map fun world => ofEnvironment world.environment)

theorem knownDefault_cons {given : Option Settings} {before : World} {past : List Query}
    (known : before.settings = knownDefault given past) (request : Request) :
    knownDefault given (⟨request, before⟩ :: past) = defaultAfter before request := by
  cases request with
  | install settings => simp [knownDefault, lastInstalled, firstAsked, defaultAfter]
  | current =>
      rw [defaultAfter, known]
      simp only [knownDefault, lastInstalled, firstAsked]
      cases lastInstalled given past <;> cases firstAsked past <;> rfl
  | load overrides file => exact known.symm

section

variable [Libraries]

/-- All that has been asked since the start, newest first, and the world that this has come to. In between
the program may change its variables, and everything else but the process default. -/
inductive History (start : World) : List Query → World → Prop
  | start : History start [] start
  | asked {past before} (request : Request) : History start past before →
      History start (⟨request, before⟩ :: past) ((perform request).outcome before).2
  | around {past before after} : History start past before → after.settings = before.settings →
      History start past after

def assigned? (file : Option SettingsFile) (environment : Environment) (name : Text) : Option Text :=
  file.bind fun file => (Libraries.setVariables file.content environment).2.get? name

/-- How the process default is answered after all that was asked. -/
structure Answers (given : Option Settings) (past : List Query) (now : World) : Prop where
  installed : ∀ settings, lastInstalled given past = some settings →
    ((perform .current).outcome now).1 = .ok (some settings)
  loaded : lastInstalled given past = none → ∃ settings,
    ((perform .current).outcome now).1 = .ok (some settings) ∧
      ∀ world, world.environment = ((firstAsked past).getD now).environment →
        ((perform (.load [] none)).outcome world).1 = .ok (some settings)

/-- A load keeps the process default, also where it fails. It sets the variables that its file assigns and
that were not set, and leaves all others as they were. -/
structure Loads (overrides : Overrides) (file : Option SettingsFile) (before : World) : Prop where
  keeps : ((perform (.load overrides file)).outcome before).2.settings = before.settings
  adds : ∀ name, ((perform (.load overrides file)).outcome before).2.environment.get? name =
    (before.environment.get? name).or (assigned? file before.environment name)

theorem get?_readInto (adds : Libraries.SetsOnlyAbsent) (environment : Environment)
    (file : Option SettingsFile) (name : Text) :
    (readInto environment file).2.get? name =
      (environment.get? name).or (assigned? file environment name) := by
  cases file with
  | none => simp [readInto, assigned?]
  | some file =>
      cases held : environment.get? name with
      | none => rfl
      | some value => exact adds file.content environment name value held

section

variable (defaults : Libraries.GivesDefaults) (keeps : Libraries.KeepsFlags)
variable {start now : World} {past : List Query}

include defaults keeps

theorem result_perform_current (world : World) :
    ((perform .current).outcome world).1 =
      .ok (some (world.settings.getD (ofEnvironment world.environment))) := by
  rw [perform, outcome_bind]
  cases known : world.settings with
  | some settings => rw [outcome_current_of_some known]; rfl
  | none => rw [outcome_current_of_none defaults keeps known]; rfl

theorem result_perform_load_nil (world : World) :
    ((perform (.load [] none)).outcome world).1 = .ok (some (ofEnvironment world.environment)) := by
  obtain ⟨_, loaded⟩ := outcome_load defaults keeps [] none world
  rw [perform, outcome_bind, loaded]
  rfl

theorem world_perform_load (overrides : Overrides) (file : Option SettingsFile) (world : World) :
    ∃ lines, ((perform (.load overrides file)).outcome world).2 =
      { world with
        environment := (readInto world.environment file).2
        journal := world.journal ++ lines } := by
  obtain ⟨lines, loaded⟩ := outcome_load defaults keeps overrides file world
  refine ⟨lines, ?_⟩
  rw [perform, outcome_bind, loaded]
  split
  · rename_i given
    rw [← (Prod.mk.inj given).2]
    rfl
  · rename_i given
    exact (Prod.mk.inj given).2.symm

theorem settings_perform (request : Request) (world : World) :
    ((perform request).outcome world).2.settings = defaultAfter world request := by
  cases request with
  | install settings => rfl
  | current =>
      rw [perform, outcome_bind, defaultAfter]
      cases known : world.settings with
      | some settings => rw [outcome_current_of_some known]; exact known
      | none => rw [outcome_current_of_none defaults keeps known]; rfl
  | load overrides file =>
      obtain ⟨_, loaded⟩ := world_perform_load defaults keeps overrides file world
      rw [loaded]
      rfl

theorem History.settings_eq (history : History start past now) :
    now.settings = knownDefault start.settings past := by
  induction history with
  | start => simp [knownDefault, lastInstalled, firstAsked]
  | asked request _ ih => rw [settings_perform defaults keeps, knownDefault_cons ih]
  | around _ same ih => rw [same, ih]

theorem answers_of_settings_eq {given : Option Settings}
    (known : now.settings = knownDefault given past) : Answers given past now where
  installed := by
    intro settings last
    rw [result_perform_current defaults keeps, known, knownDefault, last]
    rfl
  loaded := by
    intro last
    refine ⟨_, result_perform_current defaults keeps now, fun world same => ?_⟩
    rw [result_perform_load_nil defaults keeps, same, known, knownDefault, last]
    cases firstAsked past <;> rfl

theorem loads (adds : Libraries.SetsOnlyAbsent) (overrides : Overrides) (file : Option SettingsFile)
    (before : World) : Loads overrides file before where
  keeps := settings_perform defaults keeps (.load overrides file) before
  adds := by
    intro name
    obtain ⟨_, loaded⟩ := world_perform_load defaults keeps overrides file before
    rw [loaded]
    exact get?_readInto adds before.environment file name

/-- Through every history the process default is answered as what was installed last, or else as what
`load` gives on the variables as they were when it was first asked for since. No load changes it, and a load
does no more to the variables than to set those of its file that were not set. -/
theorem process_default_through_history (adds : Libraries.SetsOnlyAbsent) :
    (∀ {start now : World} {past : List Query}, History start past now →
      Answers start.settings past now) ∧
      ∀ overrides file before, Loads overrides file before :=
  ⟨fun history => answers_of_settings_eq defaults keeps (history.settings_eq defaults keeps),
    loads defaults keeps adds⟩

end
end

def warnsVariable : Text := Field.emitWarnings.variableName

def quietFile : SettingsFile :=
  ⟨"quiet.env".toList, Field.logNonScalar.variableName ++ "=off".toList⟩

def unwarned : World :=
  { World.empty with environment := [(warnsVariable, "no".toList)] }

/-- The process default stays as it was first loaded, though the variable is taken away after that and a
file is loaded that would turn log lines off, until it is to be loaded again. -/
theorem unwarned_answers :
    ∃ past now,
      History unwarned past now ∧ past.length = 2 ∧
      now.environment.get? warnsVariable = none ∧
      ((perform .current).outcome now).1 = .ok (some ⟨false, true, false⟩) ∧
      ((perform .current).outcome ((perform (.install none)).outcome now).2).1 =
        .ok (some ⟨true, false, false⟩) := by
  have asked : History unwarned _ _ := .asked .current .start
  have unset : History unwarned _
      ((Run.unsetVariable warnsVariable).outcome ((perform .current).outcome unwarned).2).2 :=
    asked.around rfl
  have loaded := unset.asked (.load [] (some quietFile))
  have reset := loaded.asked (.install none)
  have answers := @process_default_through_history _ standard_givesDefaults standard_keepsFlags
    standard_setsOnlyAbsent
  refine ⟨_, _, loaded, rfl, by decide +kernel, ?_, ?_⟩
  · obtain ⟨settings, answered, alike⟩ := (answers.1 loaded).loaded rfl
    rw [answered, ← alike unwarned rfl]
    decide +kernel
  · obtain ⟨settings, answered, alike⟩ := (answers.1 reset).loaded rfl
    rw [answered, ← alike _ rfl]
    decide +kernel

end Settings
end Stencil
