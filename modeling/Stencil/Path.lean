import Stencil.Failure

/-! Key expressions: a path of keys joined by dots, and a format spec after the first colon, which is
kept but has no effect. -/

namespace Stencil

/-- One key of a path. A key of digits alone is an index; any other is a name. -/
structure Key where
  raw : Text
  index : Option Nat
deriving DecidableEq

structure Expression where
  text : Text
  path : Text
  spec : Option Text
  keys : List Key
deriving DecidableEq

namespace Key

def isIndexText (raw : Text) : Bool :=
  !raw.isEmpty && raw.all Numeral.isDigit

def parse (raw : Text) : Except Failure Key :=
  if isIndexText raw then
    if Numeral.digitLimit < raw.length then throw (.longNumeral raw.length)
    else pure ⟨raw, some (Numeral.value raw)⟩
  else pure ⟨raw, none⟩

end Key

def pathPieces (path : Text) : List Text :=
  ((path.splitOn '.').reverse.dropWhile List.isEmpty).reverse

def parsePath (path : Text) : Except Failure (List Key) :=
  (pathPieces path).mapM Key.parse

def splitSpec : Text → Text × Option Text
  | [] => ([], none)
  | c :: rest =>
    if c = ':' then ([], some rest)
    else
      let (path, spec) := splitSpec rest
      (c :: path, spec)

theorem splitSpec_sound (text : Text) :
    ':' ∉ (splitSpec text).1 ∧
      text = (splitSpec text).1 ++ ((splitSpec text).2.map (':' :: ·)).getD [] := by
  induction text with
  | nil => simp [splitSpec]
  | cons c rest ih =>
      simp only [splitSpec]
      by_cases colon : c = ':'
      · simp [colon]
      · simp only [colon, ↓reduceIte, List.mem_cons, not_or, List.cons_append, List.cons.injEq,
          true_and]
        exact ⟨⟨Ne.symm colon, ih.1⟩, ih.2⟩

def Expression.parse (text : Text) : Except Failure Expression := do
  let (path, spec) := splitSpec text
  return ⟨text, path, spec, ← parsePath path⟩

end Stencil
