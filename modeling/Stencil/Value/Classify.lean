import Stencil.Quantity
import Stencil.World

/-! What a value is: its kind, its type's name, its truth, and whether it can be bound or called. -/

namespace Stencil

def Handle.typeName : Handle → Text
  | .presetCall => "partial".toList
  | .unreadProperty => "property".toList

def Handle.homeModule : Handle → Text
  | .presetCall => "functools.".toList
  | .unreadProperty => []

def SequenceFlavour.typeName : SequenceFlavour → Text
  | .list => "list".toList
  | .tuple => "tuple".toList
  | .deque => "deque".toList
  | .named typeName _ => typeName

def MappingFlavour.typeName : MappingFlavour → Text
  | .plain => "dict".toList
  | .ordered => "OrderedDict".toList
  | .defaulting _ => "defaultdict".toList
  | .readOnly => "mappingproxy".toList

def Segment.typeName : Segment → Text
  | .literal _ => "Literal".toList
  | .placeholder _ => "Placeholder".toList

namespace Node

def kind : Node → Kind
  | .sequence _ _ => .sequence
  | .mapping _ _ => .mapping
  | .set _ _ | .record _ | .blueprint _ | .routine _ | .builtin _ | .template _ | .stream _
  | .generator _ => .record

def typeName : Node → Text
  | .sequence flavour _ => flavour.typeName
  | .mapping flavour _ => flavour.typeName
  | .set frozen _ => (if frozen then "frozenset" else "set").toList
  | .record self => self.typeName
  | .blueprint _ => "type".toList
  | .routine self => (if self.bound then "method" else "function").toList
  | .builtin _ => "builtin_function_or_method".toList
  | .template _ => "Template".toList
  | .stream self => (if self.binary then "BytesIO" else "StringIO").toList
  | .generator _ => "generator".toList

def homeModule : Node → Text
  | .sequence .deque _ | .mapping .ordered _ | .mapping (.defaulting _) _ => "collections.".toList
  | .stream _ => "_io.".toList
  | _ => []

def fullTypeName (node : Node) : Text :=
  node.homeModule ++ node.typeName

def bindable : Node → Bool
  | .sequence _ _ | .mapping _ _ | .set _ _ | .record _ | .template _ | .generator _ => true
  | .blueprint _ | .routine _ | .builtin _ | .stream _ => false

def truth : Node → Except Failure Bool
  | .sequence _ items | .set _ items => return !items.isEmpty
  | .mapping _ entries => return !entries.isEmpty
  | .record self => self.truth.result
  | .blueprint _ | .routine _ | .builtin _ | .template _ | .stream _ | .generator _ => return true

end Node

def rangeLength (start stop step : Int) : Nat :=
  if 0 < step then ((stop - start + step - 1) / step).toNat
  else if step < 0 then ((start - stop - step - 1) / (-step)).toNat
  else 0

/-- The greatest length that a sequence can tell, and the greatest index into one. -/
def greatestLength : Nat := Nat.pow 2 63 - 1

namespace Value

def magnitudeBits (bits : UInt64) : UInt64 :=
  bits &&& 0x7fffffffffffffff

def isZeroBits (bits : UInt64) : Bool :=
  magnitudeBits bits == 0

def kind (store : Store) : Value → Kind
  | .absent => .absent
  | .bool _ | .integer _ | .real _ | .complex _ _ | .decimal _ | .fraction _ _ | .text _
  | .bytes _ | .byteArray _ => .scalar
  | .range _ _ _ | .segments _ | .diagnostics _ => .sequence
  | .pattern _ | .handle _ | .kindConstant _ | .segment _ | .diagnostic _ | .rendering _
  | .settings _ | .closedType _ | .slot _ => .record
  | .object address =>
    match store[address]? with
    | some node => node.kind
    | none => .record

def typeName (store : Store) : Value → Text
  | .absent => "NoneType".toList
  | .bool _ => "bool".toList
  | .integer _ => "int".toList
  | .real _ => "float".toList
  | .complex _ _ => "complex".toList
  | .decimal _ => "Decimal".toList
  | .fraction _ _ => "Fraction".toList
  | .text _ => "str".toList
  | .bytes _ => "bytes".toList
  | .byteArray _ => "bytearray".toList
  | .range _ _ _ => "range".toList
  | .pattern _ => "Pattern".toList
  | .handle self => self.typeName
  | .kindConstant _ => "BindingKind".toList
  | .segment self => self.typeName
  | .segments _ => "tuple".toList
  | .diagnostic _ => "Diagnostic".toList
  | .diagnostics _ => "list".toList
  | .rendering _ => "FormatResult".toList
  | .settings _ => "FormatterConfig".toList
  | .closedType self => self.metatype.name.toList
  | .slot self => self.type.name.toList
  | .object address =>
    match store[address]? with
    | some node => node.typeName
    | none => "object".toList

def homeModule (store : Store) : Value → Text
  | .decimal _ => "decimal.".toList
  | .pattern _ => "re.".toList
  | .handle self => self.homeModule
  | .object address =>
    match store[address]? with
    | some node => node.homeModule
    | none => []
  | _ => []

def fullTypeName (store : Store) (value : Value) : Text :=
  value.homeModule store ++ value.typeName store

def bindable (store : Store) : Value → Bool
  | .absent | .bool _ | .integer _ | .real _ | .complex _ _ | .decimal _ | .fraction _ _ | .text _
  | .bytes _ | .byteArray _ => false
  | .pattern _ => false
  | .closedType _ => false
  | .slot self => self.sort ≠ .routine
  | .handle _ | .range _ _ _ | .segments _ | .diagnostics _ | .kindConstant _ | .segment _ | .diagnostic _
  | .rendering _ | .settings _ => true
  | .object address =>
    match store[address]? with
    | some node => node.bindable
    | none => true

def truth (store : Store) : Value → Except Failure Bool
  | .absent => return false
  | .bool flag => return flag
  | .integer n => return n ≠ 0
  | .real bits => return !isZeroBits bits
  | .complex re im => return !(isZeroBits re && isZeroBits im)
  | .decimal numeral => return Quantity.ofNumeral numeral ≠ .zero
  | .fraction numerator _ => return numerator ≠ 0
  | .text content => return !content.isEmpty
  | .bytes octets | .byteArray octets => return !octets.isEmpty
  | .range start stop step => return rangeLength start stop step ≠ 0
  | .segments parts => return !parts.isEmpty
  | .diagnostics reports => return !reports.isEmpty
  | .pattern _ | .handle _ | .kindConstant _ | .segment _ | .diagnostic _ | .rendering _
  | .settings _ | .closedType _ | .slot _ => return true
  | .object address =>
    match store[address]? with
    | some node => node.truth
    | none => return true

def isBlank (store : Store) : Value → Except Failure Bool
  | .text content => return content.isEmpty
  | .object address =>
    match store[address]? with
    | some (.record self) => self.blank.result
    | _ => return false
  | _ => return false

end Value

def Parameter.omittable (parameter : Parameter) : Bool :=
  match parameter.shape with
  | .manyPositional | .manyKeyword => true
  | .positional | .positionalOnly | .keywordOnly => parameter.hasDefault

/-- Routines that show no parameters pass; the call decides about them. -/
def Builtin.takesNoArguments : Builtin → Bool
  | .length | .join _ | .get _ => false
  | .maximum | .attributeLookup | .upper _ | .split _ | .pop _ | .copy _ => true

def Node.takesNoArguments : Node → Bool
  | .routine self => self.parameters.all Parameter.omittable
  | .builtin self => self.takesNoArguments
  | .sequence _ _ | .mapping _ _ | .set _ _ | .record _ | .blueprint _ | .template _ | .stream _
  | .generator _ => true

namespace Value

def takesNoArguments (store : Store) : Value → Bool
  | .object address =>
    match store[address]? with
    | some node => node.takesNoArguments
    | none => true
  | _ => true

end Value
end Stencil
