import Stencil.Path

/-! Which key expressions can be read. All keys of a path are read at once, and only an index of too many
digits keeps them from it. -/

namespace Stencil

namespace Key

def isTooLong (raw : Text) : Bool :=
  isIndexText raw && decide (Numeral.digitLimit < raw.length)

def ofRaw (raw : Text) : Key :=
  ⟨raw, if isIndexText raw then some (Numeral.value raw) else none⟩

theorem parse_eq (raw : Text) :
    parse raw = if isTooLong raw then .error (.longNumeral raw.length) else .ok (ofRaw raw) := by
  unfold parse isTooLong ofRaw
  cases isIndexText raw with
  | false => rfl
  | true =>
      by_cases long : Numeral.digitLimit < raw.length
      · simp only [long, decide_true, Bool.and_self, ↓reduceIte]
        rfl
      · simp only [long, decide_false, Bool.and_false, Bool.false_eq_true, ↓reduceIte]
        rfl

theorem mapM_parse_eq (pieces : List Text) :
    pieces.mapM parse =
      match pieces.find? isTooLong with
      | some raw => .error (.longNumeral raw.length)
      | none => .ok (pieces.map ofRaw) := by
  induction pieces with
  | nil => rfl
  | cons raw rest ih =>
      rw [List.mapM_cons, parse_eq, List.find?_cons, ih]
      cases isTooLong raw with
      | true => rfl
      | false =>
          dsimp only [Bool.false_eq_true, ↓reduceIte]
          cases rest.find? isTooLong <;> rfl

end Key

def Expression.pieces (text : Text) : List Text :=
  pathPieces (splitSpec text).1

def Expression.keysOf (text : Text) : List Key :=
  (pieces text).map Key.ofRaw

namespace Expression

theorem parse_eq (text : Text) :
    parse text =
      match (pieces text).find? Key.isTooLong with
      | some raw => .error (.longNumeral raw.length)
      | none => .ok ⟨text, (splitSpec text).1, (splitSpec text).2, keysOf text⟩ := by
  have read : parsePath (splitSpec text).1 = (pieces text).mapM Key.parse := rfl
  change (parsePath (splitSpec text).1 >>= fun keys => pure (Expression.mk text _ _ keys)) = _
  rw [read, Key.mapM_parse_eq]
  cases (pieces text).find? Key.isTooLong <;> rfl

def Readable (text : Text) : Prop :=
  ∀ raw ∈ pieces text, Key.isTooLong raw = false

instance (text : Text) : Decidable (Readable text) :=
  inferInstanceAs (Decidable (∀ raw ∈ pieces text, Key.isTooLong raw = false))

theorem parse_of_readable {text : Text} (readable : Readable text) :
    parse text = .ok ⟨text, (splitSpec text).1, (splitSpec text).2, keysOf text⟩ := by
  have short : (pieces text).find? Key.isTooLong = none := by
    refine List.find?_eq_none.mpr fun raw member => ?_
    simp [readable raw member]
  rw [parse_eq, short]

theorem parse_of_not_readable {text : Text} (unreadable : ¬Readable text) :
    ∃ raw ∈ pieces text, Key.isTooLong raw = true ∧ parse text = .error (.longNumeral raw.length) := by
  rw [parse_eq]
  cases found : (pieces text).find? Key.isTooLong with
  | none =>
      refine absurd (fun raw member => ?_) unreadable
      simpa using List.find?_eq_none.mp found raw member
  | some raw => exact ⟨raw, List.mem_of_find?_eq_some found, List.find?_some found, rfl⟩

end Expression
end Stencil
