import Stencil.Accessor
import Stencil.Accessor.Operate
import Stencil.Text.Uppercase

/-! Accessors with scripts for bodies: each use of a member or a function gives the next of the values that it
holds, or fails. Values of closed types have the accessors of their types. -/

namespace Stencil

namespace Outcome

def afterUse : Outcome → Outcome
  | .gives _ (next :: later) => .gives next later
  | .gives value [] => .gives value []
  | .raises fault message => .raises fault message

def result : Outcome → Except Failure Value
  | .gives value _ => return value
  | .raises fault message => throw (.raised fault message)

end Outcome

namespace Blueprint

def afterUse (blueprint : Blueprint) (name : Text) : Blueprint :=
  { blueprint with
    members := blueprint.members.map fun member =>
      if member.name = name then { member with outcome := member.outcome.afterUse } else member }

end Blueprint

namespace Run

def useMember (address : Address) (name : Text) : Run Value := do
  match ← node? address with
  | some (.blueprint blueprint) =>
    match blueprint.find? name with
    | some member =>
      setNode address (.blueprint (blueprint.afterUse name))
      ofExcept member.outcome.result
    | none => return .absent
  | _ => return .absent

def useRoutine (address : Address) : Run Value := do
  match ← node? address with
  | some (.routine routine) =>
    setNode address (.routine { routine with outcome := routine.outcome.afterUse })
    ofExcept routine.outcome.result
  | _ => return .absent

end Run

namespace Record

def attribute? (record : Record) (name : Text) : Option Value :=
  record.attributes.lookup name

def fallback (record : Record) (name : Text) : Reading :=
  match record.dynamic with
  | some stem => .value (.text (stem ++ name))
  | none => .missing

def readProperty (record : Record) (name : Text) : Run Reading :=
  tryCatch (return .value (← Run.useMember record.blueprint name)) fun failure =>
    if failure.fault? = some .attribute then return record.fallback name else throw failure

def readMember (record : Record) (name : Text) (role : Role) : Run Reading :=
  match role with
  | .attribute => return .value (← Run.useMember record.blueprint name)
  | .property => record.readProperty name
  | .method | .staticMethod | .classMethod => return .callable (.member record.blueprint name)
  | .selfless => return .callable (.selfless record.typeName name)

def readOwn (record : Record) (name : Text) (otherwise : Run Reading) : Run Reading :=
  match record.attribute? name with
  | some value => return .value value
  | none => otherwise

def readUnnamed (record : Record) (name : Text) : Reading :=
  if name = "__doc__".toList then .value .absent
  else if name = "__module__".toList then .value (.text Blueprint.module)
  else record.fallback name

/-- A property of the class wins over an attribute of the record itself, which wins over other members. -/
def read (record : Record) (name : Text) : Run Reading := do
  match ← Run.node? record.blueprint with
  | some (.blueprint blueprint) =>
    match blueprint.find? name with
    | some member =>
      if member.role = .property then record.readProperty name
      else record.readOwn name (record.readMember name member.role)
    | none =>
      if name = "__class__".toList then return .value (.object record.blueprint)
      else record.readOwn name (return record.readUnnamed name)
  | _ => record.readOwn name (return record.fallback name)

end Record

namespace Blueprint

def readMember (address : Address) (member : Member) : Run Reading :=
  match member.role with
  | .attribute => return .value (← Run.useMember address member.name)
  | .property => return .value (.handle .unreadProperty)
  | .method => return .callable (.unbound address member.name)
  | .staticMethod | .classMethod | .selfless => return .callable (.member address member.name)

/-- On the class itself a method still lacks its receiver, and attributes of records do not exist. What a
class tells of itself hides members of the same name. -/
def read (blueprint : Blueprint) (address : Address) (name : Text) : Run Reading := do
  if name = "__name__".toList ∨ name = "__qualname__".toList then
    return .value (.text blueprint.typeName)
  else if name = "__module__".toList then return .value (.text module)
  else if name = "__class__".toList then return .value (.closedType .classes)
  else match blueprint.find? name with
    | some member => readMember address member
    | none => if name = "__doc__".toList then return .value .absent else return .missing

end Blueprint

namespace Template

def ownSettings (template : Template) : Value :=
  match template.settings with
  | some settings => .settings settings
  | none => .absent

def read [Libraries] (template : Template) (address : Address) (name : Text) : Run Reading := do
  if name = "template".toList ∨ name = "_template".toList then return .value (.text template.text)
  else if name = "segments".toList ∨ name = "_segments".toList then
    return .value (.segments template.segments)
  else if name = "binding".toList ∨ name = "_binding".toList then return .value template.binding
  else if name = "config".toList then
    return .value (.settings (← Settings.inForce template.settings))
  else if name = "_config".toList then return .value template.ownSettings
  else if name = "format".toList then return .callable (.format address)
  else if name = "render".toList then return .callable (.render address)
  else if name = "bind".toList ∨ name = "interpolate".toList then return .callable (.rebind address)
  else return .missing

end Template

def Routine.read (routine : Routine) (name : Text) : Reading :=
  match routine.attributes.lookup name with
  | some content => .value (.text content)
  | none => .missing

namespace Node

def read [Libraries] (node : Node) (address : Address) (name : Text) : Run Reading :=
  match node with
  | .record self => self.read name
  | .blueprint self => self.read address name
  | .template self => self.read address name
  | .routine self => return self.read name
  | .builtin self => return self.read name
  | .sequence _ _ | .mapping _ _ | .set _ _ | .stream _ | .generator _ => return .missing

end Node

namespace Segment

def read (segment : Segment) (name : Text) : Reading :=
  if name = "source".toList then .callable (.source segment)
  else match segment with
    | .literal text => Reading.ofFields [("text", .text text)] name
    | .placeholder children => Reading.ofFields [("children", .segments children)] name

end Segment

namespace Value

def readOwn [Libraries] (value : Value) (name : Text) : Run Reading :=
  match value with
  | .segment self => return self.read name
  | .kindConstant self =>
    return Reading.ofFields [("value", .text self.word), ("name", .text self.label)] name
  | .diagnostic self =>
    return Reading.ofFields
      [("expression", .text self.expression), ("kind", .kindConstant self.kind),
       ("message", .text self.message)] name
  | .rendering self =>
    return Reading.ofFields
      [("text", .text self.text), ("diagnostics", .diagnostics self.diagnostics),
       ("ok", .bool self.clean)] name
  | .settings self =>
    return Reading.ofFields
      [("emit_warnings", .bool self.emitWarnings), ("log_non_scalar", .bool self.logNonScalar),
       ("allow_private_accessors", .bool self.allowPrivate)] name
  | .closedType self => self.read name
  | .object address => do
    match ← Run.node? address with
    | some node => node.read address name
    | none => return .missing
  | _ => return .missing

def read [Libraries] (value : Value) (name : Text) : Run Reading := do
  match ← value.readOwn name with
  | .missing => value.readShared name
  | found => return found

end Value

namespace Builtin

def call : Builtin → Run Value
  | .length => throw (.tooFewArguments "len".toList 1)
  | .join _ => throw (.tooFewArguments "join".toList 1)
  | .get _ => throw (.tooFewArguments "get".toList 1)
  | .maximum => throw (.tooFewArguments "max".toList 1)
  | .attributeLookup => throw (.tooFewArguments "getattr".toList 2)
  | .upper receiver => return .text receiver.upper
  | .split receiver => Run.allocate (.sequence .list (receiver.words.map .text))
  | .pop receiver => do
    match ← Run.node? receiver with
    | some (.sequence flavour items) =>
      match items.getLast? with
      | some last =>
        Run.setNode receiver (.sequence flavour items.dropLast)
        return last
      | none => throw .emptyPop
    | _ => throw .emptyPop
  | .copy receiver => do
    match ← Run.node? receiver with
    | some (.mapping .readOnly entries) => Run.allocate (.mapping .plain entries)
    | some node => Run.allocate node
    | none => return .object receiver

end Builtin

def Callee.body [Libraries] (reentry : Reentry) : Callee → Run Value
  | .member address name => Run.useMember address name
  | .selfless typeName name => throw (.noReceiver typeName name)
  | .operation receiver step => Run.operate receiver step
  | .unbound _ _ | .rebind _ | .lacksArguments _ _ => throw (.tooFewArguments "call".toList 1)
  | .routine address => Run.useRoutine address
  | .builtin address => do
    match ← Run.node? address with
    | some (.builtin found) => found.call
    | _ => return .absent
  | .source segment => return .text segment.ownSource
  | .format template => return .text (← reentry.format template)
  | .render template => return .rendering (← reentry.render template)

instance Bodies.scripted [Libraries] : Bodies where
  read := Value.read
  call := Callee.body

end Stencil
