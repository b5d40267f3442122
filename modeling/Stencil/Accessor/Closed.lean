import Stencil.Accessor.Reading
import Stencil.Accessor.Routines
import Stencil.ClosedType.Documentation
import Stencil.Pattern
import Stencil.Value.Classify

/-! Reading the accessors of values of closed types, and those of the types themselves. -/

namespace Stencil

namespace Node

def closedType? : Node → Option ClosedType
  | .set frozen _ => some (if frozen then .frozenSet else .set)
  | .blueprint _ => some .classes
  | .routine self => some (if self.bound then .method else .function)
  | .builtin _ => some .builtinRoutine
  | .template _ => some .template
  | .stream self => some (if self.binary then .byteStream else .textStream)
  | .generator _ => some .generator
  | .sequence _ _ | .mapping _ _ | .record _ => none

end Node

namespace Value

def closedType? (store : Store) : Value → Option ClosedType
  | .pattern _ => some .pattern
  | .handle .presetCall => some .presetCall
  | .handle .unreadProperty => some .property
  | .kindConstant _ => some .kind
  | .segment (.literal _) => some .literal
  | .segment (.placeholder _) => some .placeholder
  | .diagnostic _ => some .diagnostic
  | .rendering _ => some .rendering
  | .settings _ => some .settings
  | .closedType self => some self.metatype
  | .slot self => some self.type
  | .object address => store[address]?.bind Node.closedType?
  | _ => none

end Value

namespace Builtin

def name : Builtin → String
  | .length => "len"
  | .maximum => "max"
  | .attributeLookup => "getattr"
  | .upper _ => "upper"
  | .join _ => "join"
  | .split _ => "split"
  | .get _ => "get"
  | .pop _ => "pop"
  | .copy _ => "copy"

def longName (routine : Builtin) : String :=
  match routine with
  | .length | .maximum | .attributeLookup => routine.name
  | .upper _ | .join _ | .split _ => "str." ++ routine.name
  | .get _ | .copy _ => "dict." ++ routine.name
  | .pop _ => "list." ++ routine.name

def receiver? : Builtin → Option Value
  | .length | .maximum | .attributeLookup => none
  | .upper receiver | .join receiver | .split receiver => some (.text receiver)
  | .get receiver => some receiver
  | .pop receiver | .copy receiver => some (.object receiver)

def read (routine : Builtin) (name : Text) : Reading :=
  if name = "__name__".toList then .value (.text routine.name.toList)
  else if name = "__qualname__".toList then .value (.text routine.longName.toList)
  else if name = "__doc__".toList then .value (.text routine.documentation.toList)
  else if name = "__module__".toList then
    .value (if routine.receiver?.isSome then .absent else .text "builtins".toList)
  else if name = "__self__".toList then
    match routine.receiver? with
    | some receiver => .value receiver
    | none => .missing
  else .missing

end Builtin

namespace Stream

def readField (stream : Stream) (name : String) : Except Failure Reading :=
  match name with
  | "closed" => return .value (.bool stream.closed)
  | "encoding" | "errors" => return if stream.binary then .missing else .value .absent
  | "newlines" | "line_buffering" =>
    if stream.binary then return .missing
    else if stream.closed then throw (.closedStream false)
    else return .value (if name = "newlines" then .absent else .bool false)
  | _ => return .missing

end Stream

namespace Pattern

def readField (source : Text) (name : String) : Run Reading :=
  match name with
  | "flags" => return .value (.integer (flags source))
  | "groups" => return .value (.integer (groups source).length)
  | "pattern" => return .value (.text source)
  | "groupindex" => do
    let entries := (namedGroups source).map fun (name, number) =>
      (Value.text name, Value.integer number)
    return .value (← Run.allocate (.mapping .readOnly entries))
  | _ => return .missing

end Pattern

namespace Run

def readPresetCall (name : String) : Run Reading :=
  match name with
  | "func" => return .value (.closedType .integer)
  | "args" => return .value (← allocate (.sequence .tuple []))
  | "keywords" => return .value (← allocate (.mapping .plain []))
  | _ => return .missing

def readModel (name : String) : Run Reading :=
  match name with
  | "model_config" =>
    return .value (← allocate (.mapping .plain [(.text "frozen".toList, .bool true)]))
  | "model_computed_fields" => return .value (← allocate (.mapping .plain []))
  | _ => return .missing

end Run

def Reading.ofRoutine (receiver : Value) (name : Text) : Option Routines → Reading
  | some .needsArguments => .callable (.lacksArguments receiver name)
  | some (.runs operation) => .callable (.operation receiver operation)
  | none => .missing

namespace Kind

def ofLabel? (label : Text) : Option Kind :=
  all.find? (·.label = label)

def readConstant (name : Text) : Reading :=
  match ofLabel? name with
  | some kind => .value (.kindConstant kind)
  | none => .missing

end Kind

namespace ClosedType

def documentation (type : ClosedType) : Value :=
  match type with
  | .builtinRoutine | .methodSlot | .attributeSlot | .memberSlot =>
    .slot ⟨type, .accessors, "__doc__".toList⟩
  | _ =>
    match type.documentation? with
    | some text => .text text.toList
    | none => .absent

def readKept (type : ClosedType) (name : Text) : Run Reading :=
  match type with
  | .kind => return Kind.readConstant name
  | .placeholder => return Reading.ofFields [("children", .segments [])] name
  | .settings => Run.readModel (String.ofList name)
  | _ => return .missing

/-- The accessors of a type itself: what it tells of itself, then what it keeps for its values. -/
def read [Libraries] (type : ClosedType) (name : Text) : Run Reading := do
  let word := String.ofList name
  if word = "__name__" || word = "__qualname__" then return .value (.text type.name.toList)
  else if word = "__module__" then return .value (.text type.module)
  else if word = "__doc__" then return .value type.documentation
  else if type.computedNames.contains word then return .value (.handle .unreadProperty)
  else match type.slot? name with
    | some slot => return .value (.slot slot)
    | none =>
      match ← type.readKept name with
      | .missing => return Reading.ofRoutine (.closedType type) name (type.staticRoutine? word)
      | found => return found

end ClosedType

namespace Node

def readField (node : Node) (name : String) : Run Reading :=
  match node with
  | .stream self => Run.ofExcept (self.readField name)
  | .generator finished =>
    match name with
    | "gi_running" | "gi_suspended" => return .value (.bool false)
    | "gi_yieldfrom" => return .value .absent
    | "gi_frame" => return if finished then .value .absent else .missing
    | _ => return .missing
  | _ => return .missing

end Node

namespace Value

def documentation (type : ClosedType) : Value :=
  match type with
  | .function | .method | .builtinRoutine | .generator | .property | .methodSlot | .attributeSlot
  | .memberSlot => .absent
  | _ => type.documentation

def readField (value : Value) (name : Text) : Run Reading := do
  let word := String.ofList name
  match value with
  | .pattern source => Pattern.readField source word
  | .handle .presetCall => Run.readPresetCall word
  | .handle .unreadProperty =>
    return if word = "fset" || word = "fdel" then .value .absent else .missing
  | .kindConstant self =>
    match word with
    | "_value_" => return .value (.text self.word)
    | "_name_" => return .value (.text self.label)
    | _ => return Kind.readConstant name
  | .settings _ =>
    if word = "model_extra" then return .value .absent else Run.readModel word
  | .slot self =>
    return Reading.ofFields
      [("__name__", .text self.name), ("__qualname__", .text self.longName),
       ("__objclass__", .closedType self.home)] name
  | .object address =>
    match ← Run.node? address with
    | some node => node.readField word
    | none => return .missing
  | _ => return .missing

def readShared [Libraries] (value : Value) (name : Text) : Run Reading := do
  match value.closedType? (← Run.store) with
  | none => return .missing
  | some type =>
    if name = "__class__".toList then return .value (.closedType type)
    else if name = "__doc__".toList then return .value (documentation type)
    else if name = "__module__".toList ∧ type.tellsModule then return .value (.text type.module)
    else match ← value.readField name with
      | .missing =>
        let word := String.ofList name
        if type = .classes then
          return Reading.ofRoutine value name (ClosedType.staticRoutine? .classes word)
        else return Reading.ofRoutine value name (type.routine? word)
      | found => return found

end Value
end Stencil
