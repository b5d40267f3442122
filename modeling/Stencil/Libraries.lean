import Stencil.World

/-! The libraries that settings rest on, by what is used of them: one sets environment variables from a file,
the other checks the values of fields and gives settings routines of its own. -/

namespace Stencil
namespace Settings

/-- Values by field name; names that no field has do nothing, and the last of equal names counts. -/
abbrev Overrides := List (Text × Value)

def Overrides.get (overrides : Overrides) (field : Field) : Value :=
  (overrides.reverse.lookup field.name).getD .absent

def Overrides.ofFlags (flag : Field → Bool) : Overrides :=
  Field.all.map fun field => (field.name, .bool (flag field))

end Settings

class Libraries where
  /-- Sets variables from the content of a file. Where it fails, some may be set already. -/
  setVariables : Text → Environment → Except Failure Unit × Environment
  validate : Settings.Overrides → Except (List FieldError) Settings
  routine? : (ofType : Bool) → String → Option Routines
  operate : Settings → SettingsOperation → Run Value

namespace Libraries

/-- Variables that are set stay as they are, whatever the file says and whether it can be read or not. -/
def SetsOnlyAbsent [Libraries] : Prop :=
  ∀ (content : Text) (environment : Environment) (name value : Text),
    environment.get? name = some value → (setVariables content environment).2.get? name = some value

/-- Without values the fields have the defaults that they are declared with. -/
def GivesDefaults [Libraries] : Prop :=
  validate [] = .ok .default

/-- Fields whose values are flags already get these flags. -/
def KeepsFlags [Libraries] : Prop :=
  ∀ flag : Settings.Field → Bool, validate (.ofFlags flag) = .ok (.ofFields flag)

end Libraries
end Stencil
