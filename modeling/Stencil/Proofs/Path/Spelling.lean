import Stencil.Proofs.Numerals
import Stencil.Proofs.Path.Joining

/-! Key expressions written and read. Keys joined by dots, with more dots behind them and a format spec after
a colon, are read back as they were, and every expression is written so; only an index of too many digits
keeps it from being read. -/

namespace Stencil

namespace Text

theorem not_mem_of_mem_splitOn (separator : Char) (text : Text) :
    ∀ piece ∈ text.splitOn separator, separator ∉ piece := by
  induction text with
  | nil => simp
  | cons c rest ih =>
      rw [List.splitOn_cons_eq_if_modifyHead]
      split
      · simpa using ih
      · rename_i differs
        cases pieces : rest.splitOn separator with
        | nil => exact absurd pieces (List.splitOn_ne_nil separator rest)
        | cons first others =>
            rw [pieces] at ih
            obtain ⟨head, tail⟩ := List.forall_mem_cons.mp ih
            refine List.forall_mem_cons.mpr ⟨?_, tail⟩
            have other : separator ≠ c := by
              rintro rfl
              simp at differs
            exact List.not_mem_cons_of_ne_of_not_mem other head

theorem mem_intercalate {separator : Text} {pieces : List Text} {piece : Text} (member : piece ∈ pieces)
    {c : Char} (inside : c ∈ piece) : c ∈ List.intercalate separator pieces := by
  induction pieces with
  | nil => cases member
  | cons first rest ih =>
      cases rest with
      | nil =>
          rw [List.mem_singleton.mp member] at inside
          simpa using inside
      | cons next others =>
          rw [List.intercalate_cons_cons, List.append_assoc]
          rcases List.mem_cons.mp member with rfl | member
          · exact List.mem_append_left _ inside
          · exact List.mem_append_right _ (List.mem_append_right _ (ih member))

theorem mem_intercalate_cases {separator : Text} {pieces : List Text} {c : Char}
    (inside : c ∈ List.intercalate separator pieces) : c ∈ separator ∨ ∃ piece ∈ pieces, c ∈ piece := by
  induction pieces with
  | nil => cases inside
  | cons first rest ih =>
      cases rest with
      | nil => exact Or.inr ⟨first, List.mem_cons_self, by simpa using inside⟩
      | cons next others =>
          rw [List.intercalate_cons_cons, List.append_assoc] at inside
          rcases List.mem_append.mp inside with inside | inside
          · exact Or.inr ⟨first, List.mem_cons_self, inside⟩
          rcases List.mem_append.mp inside with inside | inside
          · exact Or.inl inside
          · obtain inside | ⟨piece, member, inside⟩ := ih inside
            · exact Or.inl inside
            · exact Or.inr ⟨piece, List.mem_cons_of_mem _ member, inside⟩

theorem intercalate_concat_nil {pieces : List Text} (inhabited : pieces ≠ []) (separator : Text) :
    List.intercalate separator (pieces ++ [[]]) = List.intercalate separator pieces ++ separator := by
  induction pieces with
  | nil => contradiction
  | cons first rest ih =>
      cases rest with
      | nil => simp
      | cons next others => simpa using ih (by simp)

theorem intercalate_append_nils (separator : Char) (pieces : List Text) (count : Nat) :
    ∃ dots, List.intercalate [separator] (pieces ++ List.replicate count []) =
      List.intercalate [separator] pieces ++ List.replicate dots separator := by
  induction count with
  | zero => exact ⟨0, by simp⟩
  | succ count ih =>
      obtain ⟨dots, written⟩ := ih
      rw [List.replicate_succ', ← List.append_assoc]
      by_cases empty : pieces ++ List.replicate count [] = []
      · refine ⟨0, ?_⟩
        rw [empty, (List.append_eq_nil_iff.mp empty).1]
        rfl
      · refine ⟨dots + 1, ?_⟩
        rw [intercalate_concat_nil empty, written, List.append_assoc, List.replicate_succ']

end Text

namespace Key

theorem isIndexText_iff (raw : Text) : isIndexText raw = true ↔ raw.IsDecimal := by
  simp [isIndexText, Text.IsDecimal, Numeral.isDigit]

theorem isTooLong_iff (raw : Text) :
    isTooLong raw = true ↔ raw.IsLongDecimal := by
  simp [isTooLong, isIndexText_iff, Text.IsLongDecimal]

theorem index_ofRaw_iff (raw : Text) (n : Nat) :
    (ofRaw raw).index = some n ↔
      raw.IsDecimal ∧ n = Nat.ofDigits 10 (raw.reverse.map fun c => c.toNat - '0'.toNat) := by
  rw [← Numeral.value_eq_ofDigits, ← isIndexText_iff, ofRaw]
  cases isIndexText raw with
  | false => simp
  | true => simp [eq_comm]

theorem ofRaw_ofNat (n : Nat) : ofRaw (Numeral.ofNat n) = ⟨Numeral.ofNat n, some n⟩ := by
  have decimal : isIndexText (Numeral.ofNat n) = true := by
    simpa [isIndexText, Numeral.ofNat_ne_nil] using Numeral.isDigit_of_mem_ofNat n
  simp [ofRaw, decimal, Numeral.value_ofNat]

end Key

namespace Expression

/-- The keys of a path as they are written. Dots stand between keys and the path ends before a colon, so
neither is part of one; an empty key at the end would be lost. -/
structure AreKeys (raws : List Text) : Prop where
  dotless : ∀ raw ∈ raws, '.' ∉ raw
  colonless : ∀ raw ∈ raws, ':' ∉ raw
  ended : raws.getLast? ≠ some []

def spell (raws : List Text) (dots : Nat) (spec : Option Text) : Text :=
  List.intercalate ['.'] raws ++ List.replicate dots '.' ++ (spec.map (':' :: ·)).getD []

def HasLongIndex (text : Text) : Prop :=
  ∃ raws dots spec, AreKeys raws ∧ text = spell raws dots spec ∧ ∃ raw ∈ raws, raw.IsLongDecimal

/-- What is read off an expression: its path up to the first colon and the spec behind it, the keys that the
path is written with, and for each decimal key the index that it says. -/
structure Tells (text : Text) (parsed : Expression) : Prop where
  whole : parsed.text = text
  plain : ':' ∉ text → text = parsed.path ∧ parsed.spec = none
  split : ':' ∈ text → ∃ spec, parsed.spec = some spec ∧ text = parsed.path ++ ':' :: spec
  colonless : ':' ∉ parsed.path
  path : ∃ dots, parsed.path = List.intercalate ['.'] (parsed.keys.map Key.raw) ++ List.replicate dots '.'
  keys : AreKeys (parsed.keys.map Key.raw)
  index : ∀ key ∈ parsed.keys, ∀ n, key.index = some n ↔
    key.raw.IsDecimal ∧ n = Nat.ofDigits 10 (key.raw.reverse.map fun c => c.toNat - '0'.toNat)

section

variable {raws : List Text}

theorem AreKeys.colonless_path (keys : AreKeys raws) (dots : Nat) :
    ':' ∉ List.intercalate ['.'] raws ++ List.replicate dots '.' := by
  intro inside
  rcases List.mem_append.mp inside with inside | inside
  · obtain inside | ⟨raw, member, inside⟩ := Text.mem_intercalate_cases inside
    · simp at inside
    · exact keys.colonless raw member inside
  · cases (List.mem_replicate.mp inside).2

theorem AreKeys.pathPieces_intercalate (keys : AreKeys raws) :
    pathPieces (List.intercalate ['.'] raws) = raws := by
  by_cases inhabited : raws = []
  · subst inhabited
    rfl
  · have cut := List.splitOn_intercalate '.' keys.dotless inhabited
    have last : ¬(raws.getLast inhabited).isEmpty := by
      intro empty
      apply keys.ended
      rw [List.getLast?_eq_some_getLast inhabited, List.isEmpty_iff.mp empty]
    rw [pathPieces_eq_rdropWhile, cut]
    exact List.rdropWhile_eq_self_iff.mpr fun _ => last

theorem splitSpec_spell (keys : AreKeys raws) (dots : Nat) (spec : Option Text) :
    splitSpec (spell raws dots spec) =
      (List.intercalate ['.'] raws ++ List.replicate dots '.', spec) := by
  rw [spell, splitSpec_append (keys.colonless_path dots)]
  cases spec with
  | none => simp [splitSpec]
  | some spec => simp [splitSpec]

theorem pieces_spell (keys : AreKeys raws) (dots : Nat) (spec : Option Text) :
    pieces (spell raws dots spec) = raws := by
  rw [pieces, splitSpec_spell keys, pathPieces_append_dots, keys.pathPieces_intercalate]

theorem splitOn_eq_pathPieces_append (path : Text) :
    ∃ count, path.splitOn '.' = pathPieces path ++ List.replicate count [] := by
  have dropped : ∀ piece ∈ (path.splitOn '.').rtakeWhile List.isEmpty, piece = [] :=
    fun piece member => List.isEmpty_iff.mp (List.mem_rtakeWhile_imp member)
  refine ⟨((path.splitOn '.').rtakeWhile List.isEmpty).length, ?_⟩
  rw [← List.eq_replicate_of_mem dropped, pathPieces_eq_rdropWhile]
  exact (List.rdropWhile_append_rtakeWhile ..).symm

theorem getLast?_pathPieces (path : Text) : (pathPieces path).getLast? ≠ some [] := by
  intro ends
  have inhabited : pathPieces path ≠ [] := by
    intro empty
    simp [empty] at ends
  rw [List.getLast?_eq_some_getLast inhabited] at ends
  have last := List.rdropWhile_last_not List.isEmpty (path.splitOn '.') inhabited
  exact last (List.isEmpty_iff.mpr (Option.some.inj ends))

theorem areKeys_pieces (text : Text) : AreKeys (pieces text) := by
  obtain ⟨count, cut⟩ := splitOn_eq_pathPieces_append (splitSpec text).1
  have among {raw : Text} (member : raw ∈ pieces text) : raw ∈ (splitSpec text).1.splitOn '.' := by
    rw [cut]
    exact List.mem_append_left _ member
  refine ⟨?_, ?_, getLast?_pathPieces _⟩
  · exact fun raw member => Text.not_mem_of_mem_splitOn '.' _ raw (among member)
  · intro raw member inside
    have whole : ':' ∈ List.intercalate ['.'] ((splitSpec text).1.splitOn '.') :=
      Text.mem_intercalate (among member) inside
    rw [List.intercalate_splitOn] at whole
    exact (splitSpec_sound text).1 whole

theorem exists_dots (text : Text) :
    ∃ dots, (splitSpec text).1 = List.intercalate ['.'] (pieces text) ++ List.replicate dots '.' := by
  obtain ⟨count, cut⟩ := splitOn_eq_pathPieces_append (splitSpec text).1
  obtain ⟨dots, written⟩ := Text.intercalate_append_nils '.' (pieces text) count
  refine ⟨dots, ?_⟩
  rw [← written]
  exact (List.intercalate_splitOn '.').symm.trans (congrArg _ cut)

theorem hasLongIndex_iff (text : Text) : HasLongIndex text ↔ ¬Readable text := by
  simp only [Readable, not_forall, Bool.not_eq_false, Key.isTooLong_iff]
  constructor
  · rintro ⟨raws, dots, spec, keys, rfl, raw, member, long⟩
    rw [pieces_spell keys]
    exact ⟨raw, member, long⟩
  · rintro ⟨raw, member, long⟩
    obtain ⟨dots, written⟩ := exists_dots text
    refine ⟨pieces text, dots, (splitSpec text).2, areKeys_pieces text, ?_, raw, member, long⟩
    rw [spell, ← written]
    exact (splitSpec_sound text).2

theorem tells_of_readable {text : Text} (readable : Readable text) :
    ∃ parsed, parse text = .ok parsed ∧ Tells text parsed := by
  have raws : (keysOf text).map Key.raw = pieces text := by
    simp [keysOf, Key.ofRaw, Function.comp_def]
  obtain ⟨colonless, whole⟩ := splitSpec_sound text
  refine ⟨_, parse_of_readable readable, rfl, ?_, ?_, colonless, ?_, ?_, ?_⟩
  · intro plain
    cases found : (splitSpec text).2 with
    | none => simpa [found] using whole
    | some spec =>
        rw [whole, found] at plain
        simp at plain
  · intro divided
    cases found : (splitSpec text).2 with
    | none =>
        rw [whole, found] at divided
        simp [colonless] at divided
    | some spec => exact ⟨spec, rfl, by simpa [found] using whole⟩
  · rw [raws]
    exact exists_dots text
  · rw [raws]
    exact areKeys_pieces text
  · intro key member n
    obtain ⟨raw, _, rfl⟩ := List.mem_map.mp member
    exact Key.index_ofRaw_iff raw n

/-- An expression is read exactly when no key of its path is an index of too many digits; otherwise reading
fails as for a bad value. What is read tells how the expression is written, and keys, dots and spec that
are written as an expression are read back. -/
theorem parse_inverts_spell :
    (∀ text, ¬HasLongIndex text → ∃ parsed, parse text = .ok parsed ∧ Tells text parsed) ∧
      (∀ raws dots spec, AreKeys raws → (∀ raw ∈ raws, ¬raw.IsLongDecimal) →
        ∃ parsed, parse (spell raws dots spec) = .ok parsed ∧ parsed.keys.map Key.raw = raws ∧
          parsed.spec = spec) ∧
      (∀ text, (∃ failure, parse text = .error failure) ↔ HasLongIndex text) ∧
      ∀ text failure, parse text = .error failure → failure.fault? = some .value := by
  refine ⟨?_, ?_, ?_, ?_⟩
  · intro text short
    rw [hasLongIndex_iff, not_not] at short
    exact tells_of_readable short
  · intro raws dots spec keys short
    have readable : Readable (spell raws dots spec) := by
      intro raw member
      rw [pieces_spell keys] at member
      simpa [← Key.isTooLong_iff] using short raw member
    refine ⟨_, parse_of_readable readable, ?_, ?_⟩
    · simp [keysOf, pieces_spell keys, Key.ofRaw, Function.comp_def]
    · rw [splitSpec_spell keys]
  · intro text
    rw [hasLongIndex_iff]
    constructor
    · rintro ⟨failure, failed⟩ readable
      rw [parse_of_readable readable] at failed
      cases failed
    · intro unreadable
      obtain ⟨raw, _, _, failed⟩ := parse_of_not_readable unreadable
      exact ⟨_, failed⟩
  · intro text failure failed
    by_cases readable : Readable text
    · rw [parse_of_readable readable] at failed
      cases failed
    · obtain ⟨raw, _, _, long⟩ := parse_of_not_readable readable
      rw [long] at failed
      cases failed
      rfl

theorem parse_inverts_spell_with_empty_keys :
    spell [[], ['a'], [], "007".toList] 2 (some "x:.9".toList) = ".a..007..:x:.9".toList ∧
      ∃ parsed, parse ".a..007..:x:.9".toList = .ok parsed ∧
        parsed.keys = [⟨[], none⟩, ⟨['a'], none⟩, ⟨[], none⟩, ⟨"007".toList, some 7⟩] ∧
        Tells ".a..007..:x:.9".toList parsed := by
  have written : spell [[], ['a'], [], "007".toList] 2 (some "x:.9".toList) =
      ".a..007..:x:.9".toList := by decide
  have keys : AreKeys [[], ['a'], [], "007".toList] := ⟨by decide, by decide, by decide⟩
  have short : ∀ raw : Text, raw ∈ [[], ['a'], [], "007".toList] → ¬raw.IsLongDecimal := by
    intro raw member long
    have bound : ∀ raw ∈ [[], ['a'], [], "007".toList], raw.length ≤ 3 := by decide
    have limit : Numeral.digitLimit = 4300 := rfl
    have few := bound raw member
    have many := long.2
    omega
  obtain ⟨parsed, given, raws, spec⟩ := parse_inverts_spell.2.1 _ 2 (some "x:.9".toList) keys short
  rw [written] at given
  have unlong : ¬HasLongIndex ".a..007..:x:.9".toList := by
    intro long
    obtain ⟨failure, failed⟩ := (parse_inverts_spell.2.2.1 _).mpr long
    rw [given] at failed
    cases failed
  obtain ⟨again, given', tells⟩ := parse_inverts_spell.1 _ unlong
  rw [given] at given'
  cases given'
  refine ⟨written, parsed, given, ?_, tells⟩
  have evaluated : parse ".a..007..:x:.9".toList = .ok ⟨".a..007..:x:.9".toList, ".a..007..".toList,
      some "x:.9".toList, [⟨[], none⟩, ⟨['a'], none⟩, ⟨[], none⟩, ⟨"007".toList, some 7⟩]⟩ := by rfl
  rw [given] at evaluated
  cases evaluated
  rfl

end
end Expression
end Stencil
