import Stencil.Environment.File
import Stencil.Json
import Stencil.Settings.Fields

/-! Libraries as programs have them as a rule. -/

namespace Stencil
namespace Settings

def typeRoutine? (name : String) : Option Routines :=
  match name with
  | "model_construct" | "construct" => some (.runs (.settings .standard))
  | "model_rebuild" | "update_forward_refs" => some (.runs (.settings .rebuild))
  | "model_validate" | "model_validate_json" | "model_validate_strings"
  | "model_parametrized_class_name" | "from_orm" | "parse_obj" | "parse_raw" | "parse_file"
  | "validate" => some .needsArguments
  | _ => none

def ownRoutine? (name : String) : Option Routines :=
  match name with
  | "model_dump" | "dict" => some (.runs (.settings .toMapping))
  | "model_dump_json" | "json" => some (.runs (.settings .toJson))
  | "model_copy" | "copy" => some (.runs (.settings .copy))
  | "model_post_init" => some .needsArguments
  | _ => none

def routine? (ofType : Bool) (name : String) : Option Routines :=
  match ownRoutine? name with
  | some found => some (if ofType then .needsArguments else found)
  | none => typeRoutine? name

def toMapping (settings : Settings) : Node :=
  .mapping .plain (Field.all.map fun field => (.text field.name, .bool (settings.flag field)))

def toJson (settings : Settings) : Text :=
  let members := Field.all.map fun field =>
    '"' :: (field.name ++ ['"', ':'] ++ Json.boolText (settings.flag field))
  '{' :: (List.intercalate [','] members ++ ['}'])

def operate (settings : Settings) : SettingsOperation → Run Value
  | .toMapping => Run.allocate settings.toMapping
  | .toJson => return .text settings.toJson
  | .copy => return .settings settings
  | .standard => return .settings .default
  | .rebuild => return .absent

end Settings

instance Libraries.standard : Libraries where
  setVariables content environment := (.ok (), environment.addFile content)
  validate := Settings.validate
  routine? := Settings.routine?
  operate := Settings.operate

end Stencil
