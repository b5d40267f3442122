import Stencil.Segment.Groups

/-! Cutting a text into its segments, in one pass that keeps a frame for every group it is inside. -/

namespace Stencil

/-- A placeholder under construction: its finished children, newest first, and the offset of the brace
that closes it. -/
structure Frame where
  children : List Segment
  close : Nat

/-- The segments that lie in no placeholder, the frames of the open placeholders, innermost first, and
the literal text not yet stored; segments and characters stand newest first. -/
structure Assembly where
  root : List Segment
  frames : List Frame
  pending : Text

namespace Assembly

def start : Assembly := ⟨[], [], []⟩

def add (assembly : Assembly) (segment : Segment) : Assembly :=
  match assembly.frames with
  | [] => { assembly with root := segment :: assembly.root }
  | frame :: outer =>
    { assembly with frames := { frame with children := segment :: frame.children } :: outer }

def flush (assembly : Assembly) : Assembly :=
  if assembly.pending.isEmpty then assembly
  else { assembly.add (.literal assembly.pending.reverse) with pending := [] }

def enter (assembly : Assembly) (close : Nat) : Assembly :=
  { assembly with frames := ⟨[], close⟩ :: assembly.frames }

def leave (assembly : Assembly) : Assembly :=
  match assembly.frames with
  | [] => assembly
  | frame :: outer => { assembly with frames := outer }.add (.placeholder frame.children.reverse)

def closesAt (assembly : Assembly) (offset : Nat) : Bool :=
  match assembly.frames with
  | [] => false
  | frame :: _ => frame.close == offset

def step (groups : Groups) (offset : Nat) (c : Char) (assembly : Assembly) : Assembly :=
  if assembly.closesAt offset then assembly.flush.leave
  else match groups[offset]? with
    | some stop => assembly.flush.enter (stop - 1)
    | none => { assembly with pending := c :: assembly.pending }

def run (groups : Groups) : Text → (offset : Nat) → Assembly → Assembly
  | [], _, assembly => assembly
  | c :: rest, offset, assembly => run groups rest (offset + 1) (step groups offset c assembly)

def finish (assembly : Assembly) : List Segment :=
  let root := if assembly.pending.isEmpty then assembly.root
    else .literal assembly.pending.reverse :: assembly.root
  root.reverse

end Assembly

/-- The segments of a text. Braces that are escaped or match no other stay in the literals. -/
def compile (text : Text) : List Segment :=
  (Assembly.run (Groups.ofText text) text 0 Assembly.start).finish

structure Placeholder where
  raw : Text
  expression : Text
  span : Span
  nested : Bool
deriving DecidableEq

def placeholders (text : Text) : List Placeholder :=
  (outermostSpans text).map fun span =>
    let expression := text.slice (span.start + 1) (span.stop - 1)
    { raw := text.slice span.start span.stop
      expression
      span
      nested := !(outermostSpans expression).isEmpty }

end Stencil
