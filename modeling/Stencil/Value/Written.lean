import Stencil.Decimal.Layout
import Stencil.Text.Quoted
import Stencil.Value.Classify

/-! The debug text of values: a spelling that shows the type and the parts, and that marks a container
met inside itself instead of entering it again. -/

namespace Stencil

def boolDebug (flag : Bool) : Text :=
  Settings.flagText flag

def noneDebug : Text := "None".toList

def commaSeparated (pieces : List Text) : Text :=
  List.intercalate ", ".toList pieces

def tupleText (pieces : List Text) : Text :=
  match pieces with
  | [piece] => '(' :: (piece ++ [',', ')'])
  | _ => '(' :: (commaSeparated pieces ++ [')'])

def bracketed (pieces : List Text) : Text :=
  '[' :: (commaSeparated pieces ++ [']'])

def braced (pieces : List Text) : Text :=
  '{' :: (commaSeparated pieces ++ ['}'])

def parenthesised (pieces : List Text) : Text :=
  '(' :: (commaSeparated pieces ++ [')'])

namespace Segment

mutual

def debugText : Segment → Text
  | .literal text => "Literal(text=".toList ++ text.quoted ++ ")".toList
  | .placeholder children =>
    "Placeholder(children=".toList ++ tupleText (debugTexts children) ++ ")".toList

def debugTexts : List Segment → List Text
  | [] => []
  | segment :: rest => segment.debugText :: debugTexts rest

end

end Segment

namespace Kind

def summary (kind : Kind) : Text :=
  "BindingKind.".toList ++ kind.label

def debugText (kind : Kind) : Text :=
  '<' :: (kind.summary ++ ": ".toList ++ kind.word.quoted ++ ">".toList)

end Kind

def Diagnostic.debugText (diagnostic : Diagnostic) : Text :=
  "Diagnostic".toList ++ parenthesised
    ["expression=".toList ++ diagnostic.expression.quoted, "kind=".toList ++ diagnostic.kind.debugText,
     "message=".toList ++ diagnostic.message.quoted]

def Rendering.debugText (rendering : Rendering) : Text :=
  "FormatResult".toList ++ parenthesised
    ["text=".toList ++ rendering.text.quoted,
     "diagnostics=".toList ++ bracketed (rendering.diagnostics.map Diagnostic.debugText)]

def Template.debugText (template : Template) : Text :=
  "Template(".toList ++ template.text.quoted ++ ")".toList

def Handle.debugText : Handle → Text
  | .presetCall => "functools.partial(<class 'int'>)".toList
  | .unreadProperty => "<property>".toList

def Blueprint.debugText (blueprint : Blueprint) : Text :=
  "<class '".toList ++ module ++ '.' :: blueprint.typeName ++ "'>".toList

def Builtin.debugText : Builtin → Text
  | .length => "<built-in function len>".toList
  | .maximum => "<built-in function max>".toList
  | .attributeLookup => "<built-in function getattr>".toList
  | .upper _ | .join _ | .split _ | .get _ | .pop _ | .copy _ => "<built-in method>".toList

def integerText (n : Int) : Except Failure Text :=
  if Numeral.exceedsLimit n then throw .wideInteger else pure (Numeral.ofInt n)

def fractionText (numerator : Int) (denominator : Nat) : Except Failure Text := do
  if denominator = 1 then integerText numerator
  else return (← integerText numerator) ++ '/' :: (← integerText denominator)

def rangeText (start stop step : Int) : Except Failure Text := do
  let ends := [← integerText start, ← integerText stop]
  if step = 1 then return "range".toList ++ parenthesised ends
  else return "range".toList ++ parenthesised (ends ++ [← integerText step])

namespace Value

/-- The mark for a container met inside itself. A tuple with named fields has none, and is entered. -/
def cycleMark? : Node → Option Text
  | .sequence .list _ | .sequence .deque _ => some "[...]".toList
  | .sequence .tuple _ => some "(...)".toList
  | .sequence (.named _ _) _ => none
  | .mapping .plain _ => some "\x7b...\x7d".toList
  | .mapping .ordered _ => some "...".toList
  | .mapping (.defaulting factory) _ => some ("defaultdict(".toList ++ factory ++ ", \x7b...\x7d)".toList)
  | .mapping .readOnly _ => some "mappingproxy(\x7b...\x7d)".toList
  | .set _ _ | .record _ | .blueprint _ | .routine _ | .builtin _ | .template _ | .stream _
  | .generator _ => none

def sequenceText (flavour : SequenceFlavour) (pieces : List Text) : Text :=
  match flavour with
  | .list => bracketed pieces
  | .tuple => tupleText pieces
  | .deque => "deque(".toList ++ bracketed pieces ++ ")".toList
  | .named typeName fields =>
    typeName ++ parenthesised (List.zipWith (fun field piece => field ++ '=' :: piece) fields pieces)

def mappingText (flavour : MappingFlavour) (pieces : List (Text × Text)) : Text :=
  let plain := braced (pieces.map fun (key, item) => key ++ ':' :: ' ' :: item)
  match flavour with
  | .plain => plain
  | .ordered =>
    if pieces.isEmpty then "OrderedDict()".toList
    else "OrderedDict(".toList ++
      bracketed (pieces.map fun (key, item) => parenthesised [key, item]) ++ ")".toList
  | .defaulting factory => "defaultdict(".toList ++ factory ++ ", ".toList ++ plain ++ ")".toList
  | .readOnly => "mappingproxy(".toList ++ plain ++ ")".toList

def setText (frozen : Bool) (pieces : List Text) : Text :=
  match frozen, pieces with
  | false, [] => "set()".toList
  | false, _ => braced pieces
  | true, [] => "frozenset()".toList
  | true, _ => "frozenset(".toList ++ braced pieces ++ ")".toList

def entriesText (inner : Value → Except Failure Text) (entries : List (Value × Value)) :
    Except Failure (List (Text × Text)) :=
  entries.mapM fun (key, item) => return (← inner key, ← inner item)

def nodeText (inner : Value → Except Failure Text) : Node → Except Failure Text
  | .sequence flavour items => return sequenceText flavour (← items.mapM inner)
  | .mapping flavour entries => return mappingText flavour (← entriesText inner entries)
  | .set frozen items => return setText frozen (← items.mapM inner)
  | .record self => self.debug.result
  | .blueprint self => return self.debugText
  | .routine self => return (if self.bound then "<method>" else "<function>").toList
  | .builtin self => return self.debugText
  | .template self => return self.debugText
  | .stream _ => return "<stream>".toList
  | .generator _ => return "<generator>".toList

def patternWidth : Nat := 200

def immediateText : Value → Except Failure Text
  | .absent => return noneDebug
  | .bool flag => return boolDebug flag
  | .integer n => integerText n
  | .real bits => return Decimal.text Decimal.plainLayout bits
  | .complex re im => return Decimal.complexText re im
  | .decimal numeral => return "Decimal('".toList ++ numeral ++ "')".toList
  | .fraction numerator denominator =>
    return "Fraction".toList ++ parenthesised [← integerText numerator, ← integerText denominator]
  | .text content => return Text.quoted content
  | .bytes octets => return Text.quotedOctets octets
  | .byteArray octets => return "bytearray(".toList ++ Text.quotedOctetArray octets ++ ")".toList
  | .range start stop step => rangeText start stop step
  | .pattern source => return "re.compile(".toList ++ source.quoted.take patternWidth ++ ")".toList
  | .handle self => return self.debugText
  | .kindConstant self => return self.debugText
  | .segment self => return self.debugText
  | .segments parts => return tupleText (Segment.debugTexts parts)
  | .diagnostic self => return self.debugText
  | .diagnostics reports => return bracketed (reports.map Diagnostic.debugText)
  | .rendering self => return self.debugText
  | .settings self => return self.debugText
  | .closedType self => return self.summary
  | .slot self => return self.summary
  | .object _ => return "<object>".toList

def height : Value → Nat
  | .segment self => self.height
  | .segments parts => Segment.heightAll parts
  | .object _ => 1
  | _ => 0

def leafText (depth : Nat) (value : Value) : Except Failure Text :=
  if value.height ≤ depth then immediateText value else throw Failure.debugTooDeep

/-- Debug text down to `depth` objects inside each other. `entered` are the containers around it that get a
mark when they come again. -/
def debugFrom (store : Store) : (depth : Nat) → (entered : List Address) → Value → Except Failure Text
  | 0, _, .object _ => throw Failure.debugTooDeep
  | depth + 1, entered, .object address =>
    match store[address]? with
    | none => immediateText (.object address)
    | some node =>
      match cycleMark? node with
      | some mark =>
        if entered.contains address then return mark
        else nodeText (debugFrom store depth (address :: entered)) node
      | none => nodeText (debugFrom store depth entered) node
  | depth, _, value => leafText depth value

def debugText (store : Store) (depth : Nat) (value : Value) : Except Failure Text :=
  debugFrom store depth [] value

end Value
end Stencil
