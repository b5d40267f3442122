import Stencil.Text.Utf8

/-! Octets read back as text. The octets of a character are read as that character whatever stands behind
them, so decoding takes up a text where its encoding ends. -/

namespace Stencil
namespace Text

theorem toNat_toUInt8 {n : Nat} (small : n < 0x100) : n.toUInt8.toNat = n :=
  UInt8.toNat_ofNat_of_lt' small

section

variable {octet : UInt8} {rest : List UInt8} {code missing low top part high : Nat}

theorem decodeFrom_complete {c : Char} (leads : lead octet.toNat = .complete c) :
    decodeFrom (octet :: rest) none = c :: decodeFrom rest none := by
  rw [decodeFrom, leads]

theorem decodeFrom_begun {n : Nat} {sequence : Unfinished} (small : n < 0x100)
    (leads : lead n = .begun sequence) :
    decodeFrom (n.toUInt8 :: rest) none = decodeFrom rest (some sequence) := by
  rw [decodeFrom, toNat_toUInt8 small, leads]

theorem decodeFrom_continued (six : part < 0x40) (above : low ≤ 0x80 + part) (below : 0x80 + part ≤ top)
    (more : 1 < missing) :
    decodeFrom ((0x80 + part).toUInt8 :: rest) (some ⟨code, missing, low, top⟩) =
      decodeFrom rest (some ⟨code * 0x40 + part, missing - 1, 0x80, 0xbf⟩) := by
  have unfinished : ¬missing ≤ 1 := by omega
  rw [decodeFrom, toNat_toUInt8 (by omega)]
  simp [above, below, unfinished]

theorem decodeFrom_finished (six : part < 0x40) (above : low ≤ 0x80 + part) (below : 0x80 + part ≤ top) :
    decodeFrom ((0x80 + part).toUInt8 :: rest) (some ⟨code, 1, low, top⟩) =
      Char.ofNat (code * 0x40 + part) :: decodeFrom rest none := by
  rw [decodeFrom, toNat_toUInt8 (by omega)]
  simp [above, below]

theorem lead_two (least : 2 ≤ high) (greatest : high < 0x20) :
    lead (0xc0 + high) = .begun ⟨high, 1, 0x80, 0xbf⟩ := by
  simp only [lead]
  grind

theorem lead_three (greatest : high < 0x10) (six : part < 0x40) (long : high = 0 → 0x20 ≤ part)
    (valid : high = 0xd → part < 0x20) :
    ∃ low top, lead (0xe0 + high) = .begun ⟨high, 2, low, top⟩ ∧ low ≤ 0x80 + part ∧ 0x80 + part ≤ top := by
  by_cases least : high = 0
  · subst least
    exact ⟨_, _, rfl, by omega, by omega⟩
  by_cases surrogate : high = 0xd
  · subst surrogate
    exact ⟨_, _, rfl, by omega, by omega⟩
  refine ⟨0x80, 0xbf, ?_, by omega, by omega⟩
  simp only [lead]
  grind

theorem lead_four (greatest : high ≤ 4) (six : part < 0x40) (long : high = 0 → 0x10 ≤ part)
    (valid : high = 4 → part < 0x10) :
    ∃ low top, lead (0xf0 + high) = .begun ⟨high, 3, low, top⟩ ∧ low ≤ 0x80 + part ∧ 0x80 + part ≤ top := by
  by_cases least : high = 0
  · subst least
    exact ⟨_, _, rfl, by omega, by omega⟩
  by_cases last : high = 4
  · subst last
    exact ⟨_, _, rfl, by omega, by omega⟩
  refine ⟨0x80, 0xbf, ?_, by omega, by omega⟩
  simp only [lead]
  grind

theorem decodeFrom_encodeChar (c : Char) (rest : List UInt8) :
    decodeFrom (encodeChar c ++ rest) none = c :: decodeFrom rest none := by
  have valid : c.toNat < 0xd800 ∨ (0xdfff < c.toNat ∧ c.toNat < 0x110000) := c.valid
  have self := Char.ofNat_toNat c
  unfold encodeChar
  generalize c.toNat = code at valid self
  dsimp only
  split
  · rename_i one
    have leads : lead code.toUInt8.toNat = .complete c := by
      rw [toNat_toUInt8 (by omega), lead, if_pos one, self]
    exact decodeFrom_complete leads
  split
  · have whole : code / 0x40 * 0x40 + code % 0x40 = code := by omega
    rw [List.cons_append, decodeFrom_begun (by omega) (lead_two (by omega) (by omega)), List.cons_append,
      decodeFrom_finished (by omega) (by omega) (by omega), whole, self]
    rfl
  split
  · obtain ⟨low, top, leads, above, below⟩ := @lead_three (code / 0x40 % 0x40) (code / 0x1000) (by omega)
      (by omega) (by omega) (by omega)
    have whole : (code / 0x1000 * 0x40 + code / 0x40 % 0x40) * 0x40 + code % 0x40 = code := by omega
    rw [List.cons_append, decodeFrom_begun (by omega) leads, List.cons_append,
      decodeFrom_continued (by omega) above below (by omega), List.cons_append,
      decodeFrom_finished (by omega) (by omega) (by omega), whole, self]
    rfl
  · obtain ⟨low, top, leads, above, below⟩ := @lead_four (code / 0x1000 % 0x40) (code / 0x40000) (by omega)
      (by omega) (by omega) (by omega)
    have whole : ((code / 0x40000 * 0x40 + code / 0x1000 % 0x40) * 0x40 + code / 0x40 % 0x40) * 0x40 +
        code % 0x40 = code := by omega
    rw [List.cons_append, decodeFrom_begun (by omega) leads, List.cons_append,
      decodeFrom_continued (by omega) above below (by omega), List.cons_append,
      decodeFrom_continued (by omega) (by omega) (by omega) (by omega), List.cons_append,
      decodeFrom_finished (by omega) (by omega) (by omega), whole, self]
    rfl

end

/-- What stands behind a text in octets is read as if it stood alone. -/
theorem decode_encode_append (text : Text) (octets : List UInt8) :
    decode (encode text ++ octets) = text ++ decode octets := by
  induction text with
  | nil => rfl
  | cons c rest ih =>
      rw [encode, List.flatMap_cons, List.append_assoc, decode, decodeFrom_encodeChar]
      exact congrArg (c :: ·) ih

theorem decode_encode (text : Text) : decode (encode text) = text := by
  have alone := decode_encode_append text []
  rwa [List.append_nil, show decode [] = [] from rfl, List.append_nil] at alone

end Text
end Stencil
