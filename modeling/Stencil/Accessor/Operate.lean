import Stencil.Accessor.Closed
import Stencil.Settings.Load

/-! Running the routines of closed types on the value that they were read off. -/

namespace Stencil

namespace Stream

def handOut (stream : Stream) (part : Text) : Value :=
  if stream.binary then .bytes (part.map fun c => c.toNat.toUInt8) else .text part

def closedFailure (stream : Stream) (operation : StreamOperation) : Failure :=
  .closedStream (stream.binary || operation = .isTerminal || operation = .readLines)

def nextLine (stream : Stream) : Text :=
  firstLine stream.rest

def operateOpen (stream : Stream) : StreamOperation → Run (Stream × Value)
  | .close => return (stream.close, .absent)
  | .detach => throw (.unsupported "detach".toList)
  | .number => throw (.unsupported "fileno".toList)
  | .flush => return (stream, .absent)
  | .whole => return (stream, stream.handOut stream.content)
  | .isTerminal => return (stream, .bool false)
  | .read => return (stream.advance stream.rest.length, stream.handOut stream.rest)
  | .readLine => return (stream.advance stream.nextLine.length, stream.handOut stream.nextLine)
  | .readLines => do
    let found ← Run.allocate (.sequence .list ((lines stream.rest).map stream.handOut))
    return (stream.advance stream.rest.length, found)
  | .isReady => return (stream, .bool true)
  | .position => return (stream, .integer stream.position)
  | .truncate => return (stream.truncate, .integer stream.position)

def operate (stream : Stream) (operation : StreamOperation) : Run (Stream × Value) :=
  match operation with
  | .close | .detach | .number => stream.operateOpen operation
  | .flush =>
    if stream.closed && stream.binary then throw (stream.closedFailure operation)
    else stream.operateOpen operation
  | _ =>
    if stream.closed then throw (stream.closedFailure operation) else stream.operateOpen operation

end Stream

namespace Run

def lineageOf : Value → Run Value
  | .closedType type => allocate (.sequence .list (type.lineage.map .closedType))
  | value => allocate (.sequence .list [value, .closedType .base])

def operateSet (address : Address) (frozen : Bool) (items : List Value) : Operation → Run Value
  | .copySet => allocate (.set frozen items)
  | .clearSet => do
    setNode address (.set frozen [])
    return .absent
  | .takeFromSet =>
    match items with
    | item :: others => do
      setNode address (.set frozen others)
      return item
    | [] => throw .emptySet
  | _ => return .absent

def operateNode (address : Address) (node : Node) (operation : Operation) : Run Value :=
  match node, operation with
  | .set frozen items, _ => operateSet address frozen items operation
  | .stream self, .stream step => do
    let (after, given) ← self.operate step
    setNode address (.stream after)
    return given
  | .generator _, .endGenerator => do
    setNode address (.generator true)
    return .absent
  | _, _ => return .absent

def operate [Libraries] (receiver : Value) (operation : Operation) : Run Value := do
  match receiver, operation with
  | _, .refuse message => throw (.raised .type message)
  | _, .lineage => lineageOf receiver
  | .settings self, .settings step => Libraries.operate self step
  | _, .settings step => Libraries.operate .default step
  | .object address, _ =>
    match ← node? address with
    | some node => operateNode address node operation
    | none => return .absent
  | _, _ => return .absent

end Run
end Stencil
