import Stencil.Environment
import Stencil.Text.Blank

/-! Environment files: one variable a line, with comments, quotes and the word `export` before a name.
A line that fits no form is skipped. -/

namespace Stencil
namespace Environment
namespace File

structure Entry where
  name : Option Text
  value : Option Text
deriving DecidableEq

def isLineEnd (c : Char) : Bool :=
  c = '\n' || c = '\r'

def isGap (c : Char) : Bool :=
  Text.isBlank c && !isLineEnd c

def unifyLines : Text → Text
  | [] => []
  | '\r' :: '\n' :: rest => '\n' :: unifyLines rest
  | '\r' :: rest => '\n' :: unifyLines rest
  | c :: rest => c :: unifyLines rest

def exportWord : Text := "export".toList

def skipExport (text : Text) : Text :=
  let rest := text.drop exportWord.length
  if exportWord.isPrefixOf text && (rest.head?.map isGap).getD false then rest.dropWhile isGap
  else text

/-- The text up to the closing quote and the text after it. A backslash keeps a quote from closing,
unless no later quote closes. -/
def untilQuote (quote : Char) : Text → Option (Text × Text)
  | [] => none
  | '\\' :: c :: rest =>
    if c = quote then
      match untilQuote quote rest with
      | some (inside, after) => some ('\\' :: c :: inside, after)
      | none => some (['\\'], rest)
    else (untilQuote quote (c :: rest)).map fun (inside, after) => ('\\' :: inside, after)
  | c :: rest =>
    if c = quote then some ([], rest)
    else (untilQuote quote rest).map fun (inside, after) => (c :: inside, after)

def escaped? (quote c : Char) : Option Char :=
  if c = '\\' then some '\\'
  else if c = '\'' then some '\''
  else if quote = '\'' then none
  else match c with
    | '"' => some '"'
    | 'a' => some (Char.ofNat 7)
    | 'b' => some (Char.ofNat 8)
    | 'f' => some (Char.ofNat 12)
    | 'n' => some '\n'
    | 'r' => some '\r'
    | 't' => some '\t'
    | 'v' => some (Char.ofNat 11)
    | _ => none

def unescape (quote : Char) : Text → Text
  | [] => []
  | '\\' :: c :: rest =>
    match escaped? quote c with
    | some plain => plain :: unescape quote rest
    | none => '\\' :: unescape quote (c :: rest)
  | c :: rest => c :: unescape quote rest

def dropComment : Text → Text
  | [] => []
  | c :: rest =>
    if Text.isBlank c && (rest.dropWhile Text.isBlank).head? == some '#' then []
    else c :: dropComment rest

def readName (text : Text) : Option (Option Text × Text) :=
  match text with
  | '#' :: _ => some (none, text)
  | '\'' :: rest =>
    let inside := rest.takeWhile (· ≠ '\'')
    if inside.isEmpty then none
    else match rest.dropWhile (· ≠ '\'') with
      | _ :: after => some (some inside, after)
      | [] => none
  | _ =>
    let belongs (c : Char) : Bool := c ≠ '=' && c ≠ '#' && !Text.isBlank c
    let name := text.takeWhile belongs
    if name.isEmpty then none else some (some name, text.dropWhile belongs)

def readValue (text : Text) : Option (Text × Text) :=
  match text with
  | '\'' :: rest => (untilQuote '\'' rest).map fun (inside, after) => (unescape '\'' inside, after)
  | '"' :: rest => (untilQuote '"' rest).map fun (inside, after) => (unescape '"' inside, after)
  | _ =>
    let line := text.takeWhile (!isLineEnd ·)
    some (Text.stripEnd (dropComment line), text.dropWhile (!isLineEnd ·))

def finishLine (text : Text) : Option Text :=
  let rest := text.dropWhile isGap
  let rest := if rest.head? == some '#' then rest.dropWhile (!isLineEnd ·) else rest
  match rest with
  | [] => some []
  | c :: after => if isLineEnd c then some after else none

def readEntry (text : Text) : Except Text (Entry × Text) :=
  match readName (skipExport text) with
  | none => .error (skipExport text)
  | some (name, rest) =>
    let rest := rest.dropWhile isGap
    match rest with
    | '=' :: assigned =>
      let assigned := assigned.dropWhile isGap
      match readValue assigned with
      | none => .error assigned
      | some (value, after) =>
        match finishLine after with
        | none => .error after
        | some later => .ok (⟨name, some value⟩, later)
    | _ =>
      match finishLine rest with
      | none => .error rest
      | some later => .ok (⟨name, none⟩, later)

def skipLine (text : Text) : Text :=
  (text.dropWhile (!isLineEnd ·)).drop 1

def readEntries : (lines : Nat) → Text → List Entry
  | 0, _ => []
  | lines + 1, text =>
    match text.dropWhile Text.isBlank with
    | [] => []
    | c :: rest =>
      match readEntry (c :: rest) with
      | .ok (entry, later) => entry :: readEntries lines later
      | .error stuck => readEntries lines (skipLine stuck)

def assignments (text : Text) : List (Text × Option Text) :=
  let text := unifyLines text
  (readEntries (text.length + 1) text).filterMap fun entry => entry.name.map (·, entry.value)

end File

def File.assigned? (assignments : List (Text × Option Text)) (name : Text) : Option Text :=
  (assignments.reverse.lookup name).join

def setAssigned (environment : Environment) (name : Text) : Option Text → Environment
  | some value => environment.setDefault name value
  | none => environment

/-- Sets what the last mention of each name in a file assigns, where the variable is not set yet. -/
def addFile (environment : Environment) (text : Text) : Environment :=
  let assignments := File.assignments text
  assignments.foldl (fun environment (name, _) =>
    environment.setAssigned name (File.assigned? assignments name)) environment

theorem get?_setAssigned (environment : Environment) (name other : Text) (value : Option Text) :
    (environment.setAssigned name value).get? other =
      (environment.get? other).or (if other = name then value else none) := by
  cases value with
  | none => simp [setAssigned]
  | some value => exact get?_setDefault environment name other value

theorem get?_foldl_setAssigned (value? : Text → Option Text) (mentions : List (Text × Option Text))
    (name : Text) :
    ∀ environment : Environment,
      (mentions.foldl (fun environment (mentioned, _) =>
        environment.setAssigned mentioned (value? mentioned)) environment).get? name =
        (environment.get? name).or (if name ∈ mentions.map Prod.fst then value? name else none) := by
  induction mentions with
  | nil => simp
  | cons mention rest ih =>
      intro environment
      rw [List.foldl_cons, ih, get?_setAssigned, Option.or_assoc]
      by_cases same : name = mention.1
      · subst same
        cases value? mention.1 <;> simp
      · rw [List.map_cons]
        simp only [List.mem_cons, same, false_or, ↓reduceIte, Option.none_or]

theorem File.assigned?_of_not_mem {assignments : List (Text × Option Text)} {name : Text}
    (absent : name ∉ assignments.map Prod.fst) : assigned? assignments name = none := by
  have unfound : assignments.reverse.lookup name = none := by
    refine List.lookup_eq_none_iff.mpr ?_
    intro mention member
    have different : name ≠ mention.1 := by
      rintro rfl
      exact absent (List.mem_map_of_mem (List.mem_reverse.mp member))
    simp [different]
  rw [assigned?, unfound]
  rfl

/-- A file adds what it assigns to variables that are not set, and changes nothing else. -/
theorem get?_addFile (environment : Environment) (text name : Text) :
    (environment.addFile text).get? name =
      (environment.get? name).or (File.assigned? (File.assignments text) name) := by
  unfold addFile
  rw [get?_foldl_setAssigned (File.assigned? (File.assignments text))]
  split
  · rfl
  · rename_i unmentioned
    rw [File.assigned?_of_not_mem unmentioned]

end Environment
end Stencil
