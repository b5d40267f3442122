import Std.Data.TreeMap
import Stencil.Segment

/-! The balanced groups of a text: from an unescaped opening brace to the unescaped closing brace
that matches it, with no escaped brace between them. -/

namespace Stencil

abbrev Groups := Std.TreeMap Nat Nat

structure Span where
  start : Nat
  stop : Nat
deriving DecidableEq

namespace Groups

def escape : Char := '\\'

/-- Whether the character at an offset follows a backslash. No offset below one does, and an offset
past the end of the text has no answer. -/
def isEscaped? (text : Text) (position : Int) : Option Bool :=
  if position ≤ 0 then some false
  else text[(position - 1).toNat]?.map (· = escape)

/-- One pass over the text. `openings` holds the braces still open, innermost first; an escaped brace
cannot lie inside a group and so drops them all, and a closing brace with none open is text. -/
def scan : Text → (offset : Nat) → (escaped : Bool) → (openings : List Nat) → Groups → Groups
  | [], _, _, _, groups => groups
  | c :: rest, offset, escaped, openings, groups =>
    if c ≠ '{' ∧ c ≠ '}' then scan rest (offset + 1) (c = escape) openings groups
    else if escaped then scan rest (offset + 1) false [] groups
    else if c = '{' then scan rest (offset + 1) false (offset :: openings) groups
    else match openings with
      | [] => scan rest (offset + 1) false [] groups
      | start :: outer => scan rest (offset + 1) false outer (groups.insert start (offset + 1))

def ofText (text : Text) : Groups :=
  scan text 0 false [] {}

def toSpans (groups : Groups) : List Span :=
  groups.toList.map fun (start, stop) => ⟨start, stop⟩

def outermostFrom (groups : Groups) : Text → (offset resume : Nat) → List Span
  | [], _, _ => []
  | _ :: rest, offset, resume =>
    if offset < resume then outermostFrom groups rest (offset + 1) resume
    else match groups[offset]? with
      | some stop => ⟨offset, stop⟩ :: outermostFrom groups rest (offset + 1) stop
      | none => outermostFrom groups rest (offset + 1) resume

end Groups

def outermostSpans (text : Text) : List Span :=
  (Groups.ofText text).outermostFrom text 0 0

end Stencil
