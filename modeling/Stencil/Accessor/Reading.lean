import Stencil.World

/-! What reading an accessor gives, before anything is called. -/

namespace Stencil

inductive Reading where
  | missing
  | value (value : Value)
  | callable (callee : Callee)
deriving DecidableEq

namespace Reading

def ofFields (fields : List (String × Value)) (name : Text) : Reading :=
  match fields.find? (·.1.toList = name) with
  | some (_, found) => .value found
  | none => .missing

end Reading
end Stencil
