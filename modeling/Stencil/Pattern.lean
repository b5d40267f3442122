import Stencil.Numeral

/-! What the source of a pattern tells about it: its flags, and its groups with their names. -/

namespace Stencil
namespace Pattern

def flagBit : Char → Nat
  | 'i' => 2
  | 'm' => 8
  | 's' => 16
  | 'u' => 32
  | 'x' => 64
  | 'a' => 256
  | _ => 0

def isFlag (c : Char) : Bool :=
  flagBit c ≠ 0

def isBlank (c : Char) : Bool :=
  c = ' ' || ('\t' ≤ c && c ≤ '\r')

def afterComment (last : Char) : Text → Text
  | [] => []
  | '\\' :: _ :: source => afterComment last source
  | c :: source => if c = last then source else afterComment last source

def flagLetters : (bound : Nat) → (spacious : Bool) → Text → Text
  | bound + 1, spacious, '(' :: '?' :: '#' :: source =>
    flagLetters bound spacious (afterComment ')' source)
  | bound + 1, spacious, '(' :: '?' :: source =>
    let letters := source.takeWhile isFlag
    match source.dropWhile isFlag with
    | ')' :: rest =>
      if letters.isEmpty then []
      else letters ++ flagLetters bound (spacious || letters.contains 'x') rest
    | _ => []
  | bound + 1, true, '#' :: source => flagLetters bound true (afterComment '\n' source)
  | bound + 1, true, c :: source => if isBlank c then flagLetters bound true source else []
  | _, _, _ => []

def letters (source : Text) : Text :=
  flagLetters source.length false source

def flags (source : Text) : Nat :=
  let letters := letters source
  let given := ['i', 'm', 's', 'u', 'x', 'a'].filter letters.contains
  let bits := (given.map flagBit).foldl (· + ·) 0
  if letters.contains 'a' || letters.contains 'u' then bits else bits + flagBit 'u'

inductive Place where
  | outside
  | classStart
  | classFirst
  | inClass
  | comment
  | lineComment
deriving DecidableEq

def groupName (text : Text) : Text :=
  text.takeWhile (· ≠ '>')

/-- The groups that capture, in the order of their opening brackets, each with its name if it has one.
In a `spacious` source a number sign begins a comment. -/
def groupsFrom (spacious : Bool) : Place → Text → List (Option Text)
  | _, [] => []
  | .comment, '\\' :: _ :: source => groupsFrom spacious .comment source
  | .lineComment, '\\' :: _ :: source => groupsFrom spacious .lineComment source
  | .comment, c :: source => groupsFrom spacious (if c = ')' then .outside else .comment) source
  | .lineComment, c :: source =>
    groupsFrom spacious (if c = '\n' then .outside else .lineComment) source
  | .outside, '\\' :: _ :: source => groupsFrom spacious .outside source
  | .classStart, '\\' :: _ :: source | .classFirst, '\\' :: _ :: source
  | .inClass, '\\' :: _ :: source => groupsFrom spacious .inClass source
  | .classStart, c :: source =>
    groupsFrom spacious (if c = '^' then .classFirst else .inClass) source
  | .classFirst, _ :: source => groupsFrom spacious .inClass source
  | .inClass, c :: source => groupsFrom spacious (if c = ']' then .outside else .inClass) source
  | .outside, '(' :: '?' :: '#' :: source => groupsFrom spacious .comment source
  | .outside, '(' :: '?' :: 'P' :: '<' :: source =>
    some (groupName source) :: groupsFrom spacious .outside source
  | .outside, '(' :: '?' :: '(' :: source => groupsFrom spacious .outside source
  | .outside, '(' :: '?' :: source => groupsFrom spacious .outside source
  | .outside, '(' :: source => none :: groupsFrom spacious .outside source
  | .outside, '[' :: source => groupsFrom spacious .classStart source
  | .outside, c :: source =>
    groupsFrom spacious (if spacious && c = '#' then .lineComment else .outside) source

def groups (source : Text) : List (Option Text) :=
  groupsFrom ((letters source).contains 'x') .outside source

def namedGroups (source : Text) : List (Text × Nat) :=
  (groups source).zipIdx.filterMap fun (name, index) => name.map (·, index + 1)

end Pattern
end Stencil
