import Stencil.Text

/-! Streams held in memory: a content, a place in it, and whether the stream is still open. The content of
a stream of octets is kept as the characters with the octets' numbers. -/

namespace Stencil

structure Stream where
  binary : Bool
  content : Text
  position : Nat
  closed : Bool
deriving DecidableEq

namespace Stream

def ofText (binary : Bool) (content : Text) : Stream := ⟨binary, content, 0, false⟩

def rest (stream : Stream) : Text :=
  stream.content.drop stream.position

def linesFrom : (line : Text) → Text → List Text
  | [], [] => []
  | line, [] => [line.reverse]
  | line, c :: text =>
    if c = '\n' then (c :: line).reverse :: linesFrom [] text else linesFrom (c :: line) text

def lines (text : Text) : List Text :=
  linesFrom [] text

def firstLine (text : Text) : Text :=
  (lines text).headD []

def advance (stream : Stream) (count : Nat) : Stream :=
  { stream with position := stream.position + count }

def truncate (stream : Stream) : Stream :=
  { stream with content := stream.content.take stream.position }

def close (stream : Stream) : Stream :=
  { stream with closed := true }

end Stream
end Stencil
