import Stencil.Text

/-! The kinds of values that a path can meet. -/

namespace Stencil

inductive Kind where
  | sequence
  | mapping
  | record
  | scalar
  | absent
deriving DecidableEq

namespace Kind

def all : List Kind := [.sequence, .mapping, .record, .scalar, .absent]

def word : Kind → Text
  | .sequence => "sequence".toList
  | .mapping => "mapping".toList
  | .record => "object".toList
  | .scalar => "scalar".toList
  | .absent => "absent".toList

def label : Kind → Text
  | .sequence => "SEQUENCE".toList
  | .mapping => "MAPPING".toList
  | .record => "RECORD".toList
  | .scalar => "SCALAR".toList
  | .absent => "ABSENT".toList

def isScalar : Kind → Bool
  | .scalar | .absent => true
  | .sequence | .mapping | .record => false

end Kind
end Stencil
