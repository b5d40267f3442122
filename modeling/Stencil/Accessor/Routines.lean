import Stencil.Libraries

/-! The routines that the values of closed types offer, and those that the types themselves offer. -/

namespace Stencil
namespace ClosedType

def refusesNone (type : ClosedType) (name : String) : Routines :=
  .runs (.refuse (type.name.toList ++ '.' :: name.toList ++
    "() takes exactly one argument (0 given)".toList))

def setRoutine? (name : String) : Option Routines :=
  match name with
  | "copy" | "difference" | "intersection" | "union" => some (.runs .copySet)
  | "difference_update" | "intersection_update" | "update" => some (.runs .keepSet)
  | "clear" => some (.runs .clearSet)
  | "pop" => some (.runs .takeFromSet)
  | "issubset" | "issuperset" => some .needsArguments
  | "add" | "discard" | "isdisjoint" | "remove" | "symmetric_difference"
  | "symmetric_difference_update" => some (refusesNone .set name)
  | _ => none

def frozenSetRoutine? (name : String) : Option Routines :=
  match name with
  | "copy" | "difference" | "intersection" | "union" => some (.runs .copySet)
  | "issubset" | "issuperset" => some .needsArguments
  | "isdisjoint" | "symmetric_difference" => some (refusesNone .frozenSet name)
  | _ => none

def generatorRoutine? (name : String) : Option Routines :=
  match name with
  | "close" => some (.runs .endGenerator)
  | "send" => some (refusesNone .generator name)
  | "throw" => some (.runs (.refuse "throw expected at least 1 argument, got 0".toList))
  | _ => none

def streamRoutine? (name : String) : Option Routines :=
  match name with
  | "close" => some (.runs (.stream .close))
  | "detach" => some (.runs (.stream .detach))
  | "fileno" => some (.runs (.stream .number))
  | "flush" => some (.runs (.stream .flush))
  | "getvalue" => some (.runs (.stream .whole))
  | "isatty" => some (.runs (.stream .isTerminal))
  | "read" => some (.runs (.stream .read))
  | "readline" => some (.runs (.stream .readLine))
  | "readlines" => some (.runs (.stream .readLines))
  | "readable" | "seekable" | "writable" => some (.runs (.stream .isReady))
  | "tell" => some (.runs (.stream .position))
  | "truncate" => some (.runs (.stream .truncate))
  | "seek" | "write" | "writelines" => some .needsArguments
  | _ => none

def byteStreamRoutine? (name : String) : Option Routines :=
  match name with
  | "read1" => some (.runs (.stream .read))
  | "readinto" | "readinto1" => some .needsArguments
  | _ => streamRoutine? name

def propertyRoutine? (name : String) : Option Routines :=
  match name with
  | "fget" => some .needsArguments
  | "deleter" | "getter" | "setter" => some (refusesNone .property name)
  | _ => none

def routine? [Libraries] (type : ClosedType) (name : String) : Option Routines :=
  match type with
  | .set => setRoutine? name
  | .frozenSet => frozenSetRoutine? name
  | .generator => generatorRoutine? name
  | .pattern => if type.routineNames.contains name then some .needsArguments else none
  | .textStream => streamRoutine? name
  | .byteStream => byteStreamRoutine? name
  | .property => propertyRoutine? name
  | .settings => Libraries.routine? false name
  | _ => none

def packageRoutines : ClosedType → List String
  | .template => ["bind", "format", "interpolate", "render"]
  | .literal | .placeholder => ["source"]
  | .integer => ["from_bytes"]
  | _ => []

def computedNames : ClosedType → List String
  | .template => ["template", "binding", "segments", "config"]
  | .rendering => ["ok"]
  | .settings => ["model_extra", "model_fields_set"]
  | _ => []

def staticRoutine? [Libraries] (type : ClosedType) (name : String) : Option Routines :=
  if type.packageRoutines.contains name then some .needsArguments
  else if type = .settings ∧ (Libraries.routine? true name).isSome then Libraries.routine? true name
  else if name = "mro" then some (.runs .lineage)
  else none

end ClosedType
end Stencil
