import Stencil.Json.Encode
import Stencil.Reentry
import Stencil.Text.Utf8

/-! The text that a value puts in the place of a placeholder. -/

namespace Stencil

namespace Template

def display (template : Template) (reentry : Reentry) (address : Address) : Run Text :=
  if template.binding = .absent then return template.text else reentry.format address

end Template

namespace Record

def display (record : Record) : Except Failure Text :=
  (record.writing.getD record.debug).result

end Record

namespace Value

def ownText (store : Store) (depth : Nat) : Value → Except Failure Text
  | .text content => return content
  | .decimal numeral => return numeral
  | .fraction numerator denominator => fractionText numerator denominator
  | .kindConstant self => return self.summary
  | .settings self => return self.summary
  | .object address =>
    match store[address]?, depth with
    | some (.record record), _ => record.display
    | some (.mapping .readOnly entries), depth + 1 =>
      return mappingText .plain (← entriesText (debugFrom store depth [address]) entries)
    | _, _ => debugText store depth (.object address)
  | value => leafText depth value

def template? (store : Store) : Value → Option (Address × Template)
  | .object address =>
    match store[address]? with
    | some (.template template) => some (address, template)
    | _ => none
  | _ => none

def display (reentry : Reentry) (depth : Nat) (value : Value) : Run Text := do
  let store ← Run.store
  match value.template? store with
  | some (address, template) => template.display reentry address
  | none => Run.ofExcept (value.ownText store depth)

/-- A composite is written as JSON, or by its text if JSON has no form for it. A failure at the limit of the
interpreter is neither. -/
def compositeText (reentry : Reentry) (depth : Nat) (value : Value) : Run Text :=
  tryCatch (return (← Json.encode (display reentry) depth value).write) fun failure =>
    if failure.isValueOrType then value.display reentry depth else throw failure

def coerce (reentry : Reentry) (value : Value) : Run Text := do
  match value with
  | .absent => return []
  | .bool flag => return Json.boolText flag
  | .bytes octets | .byteArray octets => return Text.decode octets
  | _ =>
    let world ← Run.world
    match value.kind world.store with
    | .mapping | .sequence => value.compositeText reentry world.limit
    | .record | .scalar | .absent => value.display reentry world.limit

end Value
end Stencil
