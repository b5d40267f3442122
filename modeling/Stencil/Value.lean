import Stencil.ClosedType
import Stencil.Diagnostic
import Stencil.Segment
import Stencil.Settings
import Stencil.Stream

/-! Values, and the store of the objects that values point to. Objects are shared, may hold
themselves, and change; everything else is a value at once. -/

namespace Stencil

abbrev Address := Nat

inductive Handle where
  | presetCall
  | unreadProperty
deriving DecidableEq

inductive Value where
  | absent
  | bool (flag : Bool)
  | integer (n : Int)
  | real (bits : UInt64)
  | complex (re im : UInt64)
  | decimal (text : Text)
  | fraction (numerator : Int) (denominator : Nat)
  | text (text : Text)
  | bytes (octets : List UInt8)
  | byteArray (octets : List UInt8)
  | range (start stop step : Int)
  | pattern (source : Text)
  | handle (handle : Handle)
  | kindConstant (kind : Kind)
  | segment (segment : Segment)
  | segments (segments : List Segment)
  | diagnostic (diagnostic : Diagnostic)
  | diagnostics (diagnostics : List Diagnostic)
  | rendering (rendering : Rendering)
  | settings (settings : Settings)
  | closedType (type : ClosedType)
  | slot (slot : Slot)
  | object (address : Address)
deriving DecidableEq

inductive SequenceFlavour where
  | list
  | tuple
  | deque
  | named (typeName : Text) (fields : List Text)
deriving DecidableEq

inductive MappingFlavour where
  | plain
  | ordered
  | defaulting (factory : Text)
  | readOnly
deriving DecidableEq

inductive ParameterShape where
  | positional
  | positionalOnly
  | keywordOnly
  | manyPositional
  | manyKeyword
deriving DecidableEq

structure Parameter where
  shape : ParameterShape
  hasDefault : Bool
deriving DecidableEq

/-- What one use of an accessor gives. Successive uses take successive values; the last one repeats. -/
inductive Outcome where
  | gives (value : Value) (later : List Value)
  | raises (fault : Fault) (message : Text)
deriving DecidableEq

inductive Role where
  | attribute
  | property
  | method
  | staticMethod
  | classMethod
  | selfless
deriving DecidableEq

structure Member where
  role : Role
  name : Text
  parameters : List Parameter
  outcome : Outcome
deriving DecidableEq

/-- A class of records, its members newest first: of two members with one name the newer counts. -/
structure Blueprint where
  typeName : Text
  members : List Member
deriving DecidableEq

def Blueprint.module : Text := ['m']

inductive Writing where
  | as (text : Text)
  | fails (fault : Fault) (message : Text)
deriving DecidableEq

def Writing.result : Writing → Except Failure Text
  | .as text => return text
  | .fails fault message => throw (.raised fault message)

inductive Verdict where
  | is (flag : Bool)
  | fails (fault : Fault) (message : Text)
deriving DecidableEq

def Verdict.result : Verdict → Except Failure Bool
  | .is flag => return flag
  | .fails fault message => throw (.raised fault message)

/-- A record, its own attributes newest first. Without a writing of its own it is written as it is
debugged; `blank` tells whether it equals the empty text. -/
structure Record where
  typeName : Text
  blueprint : Address
  attributes : List (Text × Value)
  writing : Option Writing
  debug : Writing
  truth : Verdict
  blank : Verdict
  dynamic : Option Text
deriving DecidableEq

structure Routine where
  bound : Bool
  attributes : List (Text × Text)
  parameters : List Parameter
  outcome : Outcome
deriving DecidableEq

inductive Builtin where
  | length
  | maximum
  | attributeLookup
  | upper (receiver : Text)
  | join (receiver : Text)
  | split (receiver : Text)
  | get (receiver : Value)
  | pop (receiver : Address)
  | copy (receiver : Address)
deriving DecidableEq

structure Template where
  text : Text
  segments : List Segment
  binding : Value
  settings : Option Settings
deriving DecidableEq

inductive Node where
  | sequence (flavour : SequenceFlavour) (items : List Value)
  | mapping (flavour : MappingFlavour) (entries : List (Value × Value))
  | set (frozen : Bool) (items : List Value)
  | record (record : Record)
  | blueprint (blueprint : Blueprint)
  | routine (routine : Routine)
  | builtin (builtin : Builtin)
  | template (template : Template)
  | stream (stream : Stream)
  | generator (finished : Bool)
deriving DecidableEq

abbrev Store := Array Node

end Stencil
