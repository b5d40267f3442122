import Stencil.Kind

/-! The closed types: those whose values no class of records describes. Each has a name, a home, types
above it whose members it shares, and slots, which stand for the members of its values when they are read
off the type itself. -/

namespace Stencil

inductive ClosedType where
  | base
  | classes
  | enumClasses
  | modelClasses
  | function
  | method
  | builtinRoutine
  | presetCall
  | generator
  | pattern
  | textStream
  | byteStream
  | textStreams
  | byteStreams
  | streams
  | set
  | frozenSet
  | integer
  | property
  | methodSlot
  | attributeSlot
  | memberSlot
  | template
  | literal
  | placeholder
  | diagnostic
  | rendering
  | settings
  | model
  | kind
  | enum
deriving DecidableEq

/-- How a slot gives a member: by a routine, by a pair of accessors, or from its place in the value. -/
inductive SlotSort where
  | routine
  | accessors
  | place
deriving DecidableEq

structure Slot where
  home : ClosedType
  sort : SlotSort
  name : Text
deriving DecidableEq

namespace ClosedType

def home : ClosedType → String
  | .base | .classes | .function | .method | .builtinRoutine | .generator | .set | .frozenSet
  | .integer | .property | .methodSlot | .attributeSlot | .memberSlot => ""
  | .presetCall => "functools"
  | .pattern => "re"
  | .textStream | .byteStream | .textStreams | .byteStreams | .streams => "_io"
  | .enumClasses | .enum => "enum"
  | .modelClasses => "pydantic._internal._model_construction"
  | .model => "pydantic.main"
  | .template => "brace_template.template"
  | .settings => "brace_template.config"
  | .literal | .placeholder | .diagnostic | .rendering | .kind => "brace_template.types"

def name : ClosedType → String
  | .base => "object"
  | .classes => "type"
  | .enumClasses => "EnumType"
  | .modelClasses => "ModelMetaclass"
  | .function => "function"
  | .method => "method"
  | .builtinRoutine => "builtin_function_or_method"
  | .presetCall => "partial"
  | .generator => "generator"
  | .pattern => "Pattern"
  | .textStream => "StringIO"
  | .byteStream => "BytesIO"
  | .textStreams => "_TextIOBase"
  | .byteStreams => "_BufferedIOBase"
  | .streams => "_IOBase"
  | .set => "set"
  | .frozenSet => "frozenset"
  | .integer => "int"
  | .property => "property"
  | .methodSlot => "method_descriptor"
  | .attributeSlot => "getset_descriptor"
  | .memberSlot => "member_descriptor"
  | .template => "Template"
  | .literal => "Literal"
  | .placeholder => "Placeholder"
  | .diagnostic => "Diagnostic"
  | .rendering => "FormatResult"
  | .settings => "FormatterConfig"
  | .model => "BaseModel"
  | .kind => "BindingKind"
  | .enum => "Enum"

def fullName (type : ClosedType) : Text :=
  if type.home = "" then type.name.toList else type.home.toList ++ '.' :: type.name.toList

def module (type : ClosedType) : Text :=
  if type.home = "" then "builtins".toList else type.home.toList

def tellsModule (type : ClosedType) : Bool :=
  type.home ≠ "" && type.home ≠ "_io"

def summary : ClosedType → Text
  | .kind => "<enum 'BindingKind'>".toList
  | .enum => "<enum 'Enum'>".toList
  | type => "<class '".toList ++ type.fullName ++ "'>".toList

def metatype : ClosedType → ClosedType
  | .kind | .enum => .enumClasses
  | .settings | .model => .modelClasses
  | _ => .classes

def above : ClosedType → List ClosedType
  | .base => []
  | .enumClasses | .modelClasses => [.classes, .base]
  | .textStream => [.textStreams, .streams, .base]
  | .byteStream => [.byteStreams, .streams, .base]
  | .textStreams | .byteStreams => [.streams, .base]
  | .settings => [.model, .base]
  | .kind => [.enum, .base]
  | _ => [.base]

def lineage (type : ClosedType) : List ClosedType :=
  type :: type.above

def routineNames : ClosedType → List String
  | .classes => ["mro"]
  | .generator => ["close", "send", "throw"]
  | .pattern =>
    ["findall", "finditer", "fullmatch", "match", "scanner", "search", "split", "sub", "subn"]
  | .textStream =>
    ["close", "getvalue", "read", "readable", "readline", "seek", "seekable", "tell", "truncate",
     "writable", "write"]
  | .byteStream =>
    ["close", "flush", "getbuffer", "getvalue", "isatty", "read", "read1", "readable", "readinto",
     "readline", "readlines", "seek", "seekable", "tell", "truncate", "writable", "write",
     "writelines"]
  | .textStreams => ["detach", "read", "readline", "write"]
  | .byteStreams => ["detach", "read", "read1", "readinto", "readinto1", "write"]
  | .streams =>
    ["close", "fileno", "flush", "isatty", "readable", "readline", "readlines", "seek", "seekable",
     "tell", "truncate", "writable", "writelines"]
  | .set =>
    ["add", "clear", "copy", "difference", "difference_update", "discard", "intersection",
     "intersection_update", "isdisjoint", "issubset", "issuperset", "pop", "remove",
     "symmetric_difference", "symmetric_difference_update", "union", "update"]
  | .frozenSet =>
    ["copy", "difference", "intersection", "isdisjoint", "issubset", "issuperset",
     "symmetric_difference", "union"]
  | .integer => ["as_integer_ratio", "bit_count", "bit_length", "conjugate", "to_bytes"]
  | .property => ["deleter", "getter", "setter"]
  | _ => []

def accessorNames : ClosedType → List String
  | .generator => ["gi_frame", "gi_running", "gi_suspended", "gi_yieldfrom"]
  | .pattern => ["groupindex"]
  | .textStream => ["closed", "line_buffering", "newlines"]
  | .byteStream | .streams => ["closed"]
  | .textStreams => ["encoding", "errors", "newlines"]
  | .integer => ["denominator", "imag", "numerator", "real"]
  | _ => []

def placeNames : ClosedType → List String
  | .generator => ["gi_code"]
  | .presetCall => ["args", "func", "keywords"]
  | .pattern => ["flags", "groups", "pattern"]
  | .property => ["fdel", "fget", "fset"]
  | _ => []

def ownSlot? (type : ClosedType) (name : Text) : Option Slot :=
  if type.routineNames.any (·.toList = name) then some ⟨type, .routine, name⟩
  else if type.accessorNames.any (·.toList = name) then some ⟨type, .accessors, name⟩
  else if type.placeNames.any (·.toList = name) then some ⟨type, .place, name⟩
  else none

def slot? (type : ClosedType) (name : Text) : Option Slot :=
  type.lineage.findSome? (·.ownSlot? name)

end ClosedType

namespace Slot

def type (slot : Slot) : ClosedType :=
  match slot.sort with
  | .routine => .methodSlot
  | .accessors => .attributeSlot
  | .place => .memberSlot

def longName (slot : Slot) : Text :=
  slot.home.name.toList ++ '.' :: slot.name

def word (slot : Slot) : String :=
  match slot.sort with
  | .routine => "method"
  | .accessors => "attribute"
  | .place => "member"

def summary (slot : Slot) : Text :=
  '<' :: (slot.word.toList ++ " '".toList ++ slot.name ++ "' of '".toList ++ slot.home.fullName ++
    "' objects>".toList)

end Slot
end Stencil
