import Stencil.Text

/-! The settings that path resolution and formatting obey. -/

namespace Stencil

structure Settings where
  emitWarnings : Bool
  logNonScalar : Bool
  allowPrivate : Bool
deriving DecidableEq

namespace Settings

def default : Settings := ⟨true, true, false⟩

def flagText (flag : Bool) : Text :=
  if flag then "True".toList else "False".toList

def fieldsText (quote assign separator : Text) (settings : Settings) : Text :=
  let field (name : String) (flag : Bool) : Text :=
    quote ++ name.toList ++ quote ++ assign ++ flagText flag
  List.intercalate separator
    [field "emit_warnings" settings.emitWarnings,
     field "log_non_scalar" settings.logNonScalar,
     field "allow_private_accessors" settings.allowPrivate]

def summary (settings : Settings) : Text :=
  settings.fieldsText [] "=".toList " ".toList

def debugText (settings : Settings) : Text :=
  "FormatterConfig(".toList ++ settings.fieldsText [] "=".toList ", ".toList ++ ")".toList

def mappingText (settings : Settings) : Text :=
  '{' :: settings.fieldsText "'".toList ": ".toList ", ".toList ++ ['}']

inductive Field where
  | emitWarnings
  | logNonScalar
  | allowPrivate
deriving DecidableEq

namespace Field

def all : List Field := [.emitWarnings, .logNonScalar, .allowPrivate]

def name : Field → Text
  | .emitWarnings => "emit_warnings".toList
  | .logNonScalar => "log_non_scalar".toList
  | .allowPrivate => "allow_private_accessors".toList

def variableName : Field → Text
  | .emitWarnings => "BRACE_TEMPLATE_EMIT_WARNINGS".toList
  | .logNonScalar => "BRACE_TEMPLATE_LOG_NON_SCALAR".toList
  | .allowPrivate => "BRACE_TEMPLATE_ALLOW_PRIVATE".toList

end Field

def flag (settings : Settings) : Field → Bool
  | .emitWarnings => settings.emitWarnings
  | .logNonScalar => settings.logNonScalar
  | .allowPrivate => settings.allowPrivate

def ofFields (flag : Field → Bool) : Settings :=
  ⟨flag .emitWarnings, flag .logNonScalar, flag .allowPrivate⟩

end Settings
end Stencil
