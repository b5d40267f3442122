import Stencil.Kind
import Stencil.Numeral

/-! What can go wrong, told by its cause, and the message of each cause. -/

namespace Stencil

inductive Fault where
  | value
  | type
  | attribute
  | runtime
  | index
  | lookup
  | overflow
  | depth
  | unsupported
  | named (name : Text)
deriving DecidableEq

inductive FieldFault where
  | unreadable
  | wrongType
  | frozen
deriving DecidableEq

structure FieldError where
  field : Text
  fault : FieldFault
deriving DecidableEq

inductive FailureSort where
  | template
  | invalidTemplate
  | missingBinding
  | invalidBinding
  | resolution
  | typeMismatch
  | indexOutOfRange
  | privateAccessor
  | nonScalar
deriving DecidableEq

namespace FailureSort

def name : FailureSort → String
  | .template => "TemplateError"
  | .invalidTemplate => "InvalidTemplateError"
  | .missingBinding => "MissingBindingError"
  | .invalidBinding => "InvalidBindingError"
  | .resolution => "ResolutionError"
  | .typeMismatch => "TypeMismatchError"
  | .indexOutOfRange => "IndexOutOfRangeError"
  | .privateAccessor => "PrivateAccessorError"
  | .nonScalar => "NonScalarResultWarning"

def lineage : FailureSort → List FailureSort
  | .template => [.template]
  | .invalidTemplate => [.invalidTemplate, .template]
  | .missingBinding => [.missingBinding, .template]
  | .invalidBinding => [.invalidBinding, .template]
  | .resolution => [.resolution, .template]
  | .typeMismatch => [.typeMismatch, .resolution, .template]
  | .indexOutOfRange => [.indexOutOfRange, .typeMismatch, .resolution, .template]
  | .privateAccessor => [.privateAccessor, .typeMismatch, .resolution, .template]
  | .nonScalar => [.nonScalar]

def isType (sort : FailureSort) : Bool :=
  sort = .invalidTemplate || sort = .invalidBinding

end FailureSort

inductive Failure where
  | general (message : Text)
  | invalidTemplate (typeName : Text)
  | missingBinding (message : Text)
  | invalidBinding (typeName : Text)
  | resolution (message key expression : Text)
  | typeMismatch (key expression expected actual : Text)
  | indexOutOfRange (key expression : Text) (index length : Int)
  | privateAccessor (key expression actual : Text)
  | nonScalar (expression kind : Text)
  | longNumeral (digits : Nat)
  | wideInteger
  | lengthOverflow
  | circular
  | unsupportedKey (typeName : Text)
  | noReceiver (typeName name : Text)
  | tooFewArguments (routine : Text) (least : Nat)
  | emptyPop
  | emptySet
  | closedStream (stop : Bool)
  | unsupported (routine : Text)
  | outsideText
  | rightOperand
  | nestedTooDeep (task : Text)
  | invalidSettings (errors : List FieldError)
  | badItem (fault : Fault) (message : Text)
  | raised (fault : Fault) (message : Text)
deriving DecidableEq

namespace Failure

def expectedIndex (index : Int) : Text :=
  "sequence with index ".toList ++ Numeral.ofInt index

def actualLength (length : Int) : Text :=
  "sequence of length ".toList ++ Numeral.ofInt length

def outOfRange (key expression : Text) (index length : Int) : Except Failure Failure :=
  if Numeral.exceedsLimit index || Numeral.exceedsLimit length then throw .wideInteger
  else return .indexOutOfRange key expression index length

def publicAccessor : Text := "public accessor".toList

def mismatchMessage (key expression expected actual : Text) : Text :=
  "Key-type mismatch (key ".toList ++ key ++ ") in ".toList ++ expression ++
    ": expected ".toList ++ expected ++ ", got ".toList ++ actual

def nonScalarMessage (expression kind : Text) : Text :=
  "Format expression ".toList ++ expression ++ " yielded a ".toList ++ kind ++
    " value rather than a scalar".toList

def bindingRequired : Failure :=
  .missingBinding "Bindings are required if the template has no default binding".toList

def encodingTooDeep : Failure :=
  .nestedTooDeep " while encoding a JSON object".toList

def debugTooDeep : Failure :=
  .nestedTooDeep " while getting the repr of an object".toList

def validationMessage (count : Nat) : Text :=
  Numeral.ofNat count ++ (if count = 1 then " validation error" else " validation errors").toList ++
    " for FormatterConfig".toList

def limitMessage (detail : Text) : Text :=
  "Exceeds the limit (".toList ++ Numeral.ofNat Numeral.digitLimit ++
    " digits) for integer string conversion".toList ++ detail ++
    "; use sys.set_int_max_str_digits() to increase the limit".toList

def message : Failure → Text
  | .general message => message
  | .invalidTemplate typeName => "Template must be a string, got ".toList ++ typeName
  | .missingBinding message => message
  | .invalidBinding typeName =>
    "Binding type (".toList ++ typeName ++
      ") not usable; provide a mapping, sequence or object".toList
  | .resolution message _ _ => message
  | .typeMismatch key expression expected actual =>
    mismatchMessage key expression expected actual
  | .indexOutOfRange key expression index length =>
    mismatchMessage key expression (expectedIndex index) (actualLength length)
  | .privateAccessor key expression actual =>
    mismatchMessage key expression publicAccessor actual
  | .nonScalar expression kind => nonScalarMessage expression kind
  | .longNumeral digits =>
    limitMessage (": value has ".toList ++ Numeral.ofNat digits ++ " digits".toList)
  | .wideInteger => limitMessage []
  | .lengthOverflow => "Python int too large to convert to C ssize_t".toList
  | .circular => "Circular reference detected".toList
  | .unsupportedKey typeName =>
    "keys must be str, int, float, bool or None, not ".toList ++ typeName
  | .noReceiver typeName name =>
    typeName ++ ".".toList ++ name ++ "() takes 0 positional arguments but 1 was given".toList
  | .tooFewArguments routine least =>
    routine ++ " expected at least ".toList ++ Numeral.ofNat least ++
      (if least = 1 then " argument, got 0" else " arguments, got 0").toList
  | .emptyPop => "pop from empty list".toList
  | .emptySet => "'pop from an empty set'".toList
  | .closedStream stop => "I/O operation on closed file".toList ++ (if stop then ['.'] else [])
  | .unsupported routine => routine
  | .outsideText => "string index out of range".toList
  | .rightOperand => "Template object must come first in % interpolation".toList
  | .nestedTooDeep task => "maximum recursion depth exceeded".toList ++ task
  | .invalidSettings errors => validationMessage errors.length
  | .badItem _ message => message
  | .raised _ message => message

def fault? : Failure → Option Fault
  | .invalidTemplate _ | .invalidBinding _ | .unsupportedKey _ | .noReceiver _ _
  | .tooFewArguments _ _ | .rightOperand => some .type
  | .longNumeral _ | .wideInteger | .circular | .closedStream _ | .invalidSettings _ => some .value
  | .emptySet => some .lookup
  | .unsupported _ => some .unsupported
  | .emptyPop | .outsideText => some .index
  | .lengthOverflow => some .overflow
  | .nestedTooDeep _ => some .depth
  | .badItem fault _ | .raised fault _ => some fault
  | .general _ | .missingBinding _ | .resolution _ _ _ | .typeMismatch _ _ _ _
  | .indexOutOfRange _ _ _ _ | .privateAccessor _ _ _ | .nonScalar _ _ => none

def sort? : Failure → Option FailureSort
  | .general _ => some .template
  | .invalidTemplate _ => some .invalidTemplate
  | .missingBinding _ => some .missingBinding
  | .invalidBinding _ => some .invalidBinding
  | .resolution _ _ _ => some .resolution
  | .typeMismatch _ _ _ _ => some .typeMismatch
  | .indexOutOfRange _ _ _ _ => some .indexOutOfRange
  | .privateAccessor _ _ _ => some .privateAccessor
  | .nonScalar _ _ => some .nonScalar
  | _ => none

/-- The failures that another way of writing a value can make good. -/
def isValueOrType (failure : Failure) : Bool :=
  failure.fault? == some .value || failure.fault? == some .type || failure.fault? == some .unsupported

end Failure
end Stencil
