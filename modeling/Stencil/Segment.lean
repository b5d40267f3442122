import Stencil.Text

/-! Segments of a template: text that is kept as it is, and placeholders, which hold segments again. -/

namespace Stencil

inductive Segment where
  | literal (text : Text)
  | placeholder (children : List Segment)

namespace Segment

mutual

def decideEq : (left right : Segment) → Decidable (left = right)
  | .literal left, .literal right =>
    if same : left = right then isTrue (by rw [same]) else isFalse (by simpa using same)
  | .placeholder left, .placeholder right =>
    match decideEqAll left right with
    | isTrue same => isTrue (by rw [same])
    | isFalse different => isFalse (by simpa using different)
  | .literal _, .placeholder _ => isFalse (by simp)
  | .placeholder _, .literal _ => isFalse (by simp)

def decideEqAll : (left right : List Segment) → Decidable (left = right)
  | [], [] => isTrue rfl
  | [], _ :: _ => isFalse (by simp)
  | _ :: _, [] => isFalse (by simp)
  | first :: rest, other :: others =>
    match decideEq first other, decideEqAll rest others with
    | isTrue head, isTrue tail => isTrue (by rw [head, tail])
    | isFalse different, _ => isFalse (by simp [different])
    | _, isFalse different => isFalse (by simp [different])

end

instance : DecidableEq Segment := decideEq

mutual

def source : Segment → Text
  | .literal text => text
  | .placeholder children => '{' :: (sourceAll children ++ ['}'])

def sourceAll : List Segment → Text
  | [] => []
  | segment :: rest => segment.source ++ sourceAll rest

end

theorem sourceAll_append (left right : List Segment) :
    sourceAll (left ++ right) = sourceAll left ++ sourceAll right := by
  induction left with
  | nil => simp [sourceAll]
  | cons segment rest ih => simp [sourceAll, ih]

def isPlaceholder : Segment → Bool
  | .literal _ => false
  | .placeholder _ => true

mutual

def weight : Segment → Nat
  | .literal _ => 1
  | .placeholder children => weightAll children + 2

def weightAll : List Segment → Nat
  | [] => 0
  | segment :: rest => segment.weight + weightAll rest

end

mutual

def height : Segment → Nat
  | .literal _ => 1
  | .placeholder children => heightAll children + 1

def heightAll : List Segment → Nat
  | [] => 0
  | segment :: rest => max segment.height (heightAll rest)

end

/-- What is left to write: the segments not yet visited of every placeholder that is open,
innermost first, the whole sequence last. -/
def pendingWeight : List (List Segment) → Nat
  | [] => 0
  | segments :: outer => weightAll segments + 1 + pendingWeight outer

/-- The walk behind `write`, with the text written so far newest character first: leaving a sequence
closes its placeholder unless the sequence is the outermost. -/
def writeOnto (written : Text) : List (List Segment) → Text
  | [] => written
  | [[]] => written
  | [] :: next :: outer => writeOnto ('}' :: written) (next :: outer)
  | (.literal text :: rest) :: outer => writeOnto (text.reverse ++ written) (rest :: outer)
  | (.placeholder children :: rest) :: outer =>
    writeOnto ('{' :: written) (children :: rest :: outer)
termination_by stack => pendingWeight stack
decreasing_by all_goals simp [pendingWeight, weightAll, weight] <;> omega

def write (segments : List Segment) : Text :=
  (writeOnto [] [segments]).reverse

def ownSource : Segment → Text
  | .literal text => text
  | .placeholder children => write [.placeholder children]

end Segment
end Stencil
