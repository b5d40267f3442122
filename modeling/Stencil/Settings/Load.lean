import Stencil.Libraries
import Stencil.Text.Blank
import Stencil.Value.Classify

/-! Settings from overrides, environment variables and defaults, in this order for each field, and the
process default that is loaded at its first use. -/

namespace Stencil
namespace Settings

def trueWords : List Text := ["true".toList, "1".toList, "yes".toList, "on".toList]

def falseWords : List Text := ["false".toList, "0".toList, "no".toList, "off".toList]

def flagOfText? (text : Text) : Option Bool :=
  let word := text.strip.map Char.toLower
  if trueWords.contains word then some true
  else if falseWords.contains word then some false
  else none

/-- An override that is there hides the variable, also when it is blank or spells no flag. -/
def resolveFlag (store : Store) (override : Value) (assigned : Option Text) (default : Bool) :
    Except Failure Bool := do
  match override with
  | .absent => return (assigned.bind flagOfText?).getD default
  | .text text => return (flagOfText? text).getD default
  | value => if ← value.isBlank store then return default else value.truth store

structure SettingsFile where
  name : Text
  content : Text

section

variable [Libraries]

def readFile (file : SettingsFile) : Run Unit := do
  let (result, environment) := Libraries.setVariables file.content (← Run.world).environment
  modify fun world => { world with environment }
  Run.ofExcept result
  Run.log .debug .settings ("Loaded environment from ".toList ++ file.name)

def build (values : Overrides) : Run Settings :=
  Run.ofExcept ((Libraries.validate values).mapError .invalidSettings)

def resolve (overrides : Overrides) (defaults : Settings) (field : Field) : Run Bool := do
  let world ← Run.world
  Run.ofExcept (resolveFlag world.store (overrides.get field)
    (world.environment.get? field.variableName) (defaults.flag field))

def gather (overrides : Overrides) : Run Settings := do
  let defaults ← build []
  let emitWarnings ← resolve overrides defaults .emitWarnings
  let logNonScalar ← resolve overrides defaults .logNonScalar
  let allowPrivate ← resolve overrides defaults .allowPrivate
  let settings ← build (.ofFlags (Settings.mk emitWarnings logNonScalar allowPrivate).flag)
  Run.log .debug .settings ("Formatter config resolved: ".toList ++ settings.mappingText)
  return settings

/-- Settings from overrides and the variables, after a file has set those that were not set. -/
def load (overrides : Overrides) (file : Option SettingsFile) : Run Settings := do
  if let some file := file then readFile file
  gather overrides

def install (settings : Option Settings) : Run Unit :=
  modify fun world => { world with settings }

/-- The process default, loaded and installed if there is none. -/
def current : Run Settings := do
  match (← Run.world).settings with
  | some settings => return settings
  | none =>
    let settings ← load [] none
    install (some settings)
    return settings

def inForce : Option Settings → Run Settings
  | some settings => return settings
  | none => current

end

/-- What a program can do about its settings. Installing none has the process default loaded again. -/
inductive Request where
  | install (settings : Option Settings)
  | current
  | load (overrides : Overrides) (file : Option SettingsFile)

def perform [Libraries] : Request → Run (Option Settings)
  | .install settings => do
    install settings
    return none
  | .current => return some (← current)
  | .load overrides file => return some (← load overrides file)

end Settings
end Stencil
