import Mathlib.Data.List.DropRight
import Stencil.Proofs.Path.Keys

/-! Key expressions joined by a dot have the keys of both, one after the other. Dots at the end of a path and
the format spec behind it add none. -/

namespace Stencil

theorem Text.splitOn_concat {separator last : Char} (apart : last ≠ separator) (text : Text) :
    ∃ pieces piece, (text ++ [last]).splitOn separator = pieces ++ [piece ++ [last]] := by
  induction text with
  | nil => exact ⟨[], [], List.splitOn_eq_singleton (by simpa using apart.symm)⟩
  | cons c tail ih =>
      obtain ⟨pieces, piece, cut⟩ := ih
      rw [List.cons_append, List.splitOn_cons_eq_if_modifyHead, cut]
      split
      · exact ⟨[] :: pieces, piece, rfl⟩
      · cases pieces with
        | nil => exact ⟨[], c :: piece, rfl⟩
        | cons first others => exact ⟨(c :: first) :: others, piece, rfl⟩

theorem pathPieces_eq_rdropWhile (path : Text) :
    pathPieces path = (path.splitOn '.').rdropWhile List.isEmpty := by
  rfl

theorem pathPieces_eq_splitOn {path : Text} (inhabited : path ≠ []) (dotless : path.getLast? ≠ some '.') :
    pathPieces path = path.splitOn '.' := by
  obtain rfl | ⟨front, last, rfl⟩ := path.eq_nil_or_concat
  · exact absurd rfl inhabited
  · have apart : last ≠ '.' := by simpa using dotless
    obtain ⟨pieces, piece, cut⟩ := Text.splitOn_concat apart front
    rw [pathPieces_eq_rdropWhile, List.concat_eq_append, cut]
    exact List.rdropWhile_concat_neg _ _ _ (by simp)

theorem pathPieces_append_cons {first : Text} (inhabited : first ≠ [])
    (dotless : first.getLast? ≠ some '.') (rest : Text) :
    pathPieces (first ++ '.' :: rest) = pathPieces first ++ pathPieces rest := by
  have kept := pathPieces_eq_splitOn inhabited dotless
  have whole : ((first.splitOn '.').reverse.dropWhile List.isEmpty) = (first.splitOn '.').reverse := by
    simpa [pathPieces, List.reverse_eq_iff] using kept
  rw [kept, pathPieces, List.splitOn_append_cons_self, List.reverse_append, List.dropWhile_append, whole,
    pathPieces]
  split
  · rename_i none
    simp [List.isEmpty_iff.mp none]
  · simp

theorem pathPieces_append_dots (path : Text) (count : Nat) :
    pathPieces (path ++ List.replicate count '.') = pathPieces path := by
  induction count with
  | zero => simp
  | succ count ih =>
      rw [List.replicate_succ', ← List.append_assoc, pathPieces_eq_rdropWhile,
        List.splitOn_append_cons_self]
      exact (List.rdropWhile_concat_pos _ _ _ rfl).trans ih

theorem splitSpec_append {path : Text} (colonless : ':' ∉ path) (rest : Text) :
    splitSpec (path ++ rest) = (path ++ (splitSpec rest).1, (splitSpec rest).2) := by
  induction path with
  | nil => rfl
  | cons c tail ih =>
      have apart : c ≠ ':' := fun same => colonless (same ▸ List.mem_cons_self)
      rw [List.cons_append, splitSpec, if_neg apart,
        ih fun member => colonless (List.mem_cons_of_mem c member)]
      rfl

namespace Expression

theorem pieces_of_colonless {path : Text} (colonless : ':' ∉ path) : pieces path = pathPieces path := by
  have alone := splitSpec_append colonless []
  rw [List.append_nil] at alone
  rw [pieces, alone]
  simp [splitSpec]

theorem pieces_append_cons {first : Text} (inhabited : first ≠ []) (colonless : ':' ∉ first)
    (dotless : first.getLast? ≠ some '.') (rest : Text) :
    pieces (first ++ '.' :: rest) = pieces first ++ pieces rest := by
  rw [pieces_of_colonless colonless, pieces, splitSpec_append colonless]
  exact pathPieces_append_cons inhabited dotless (splitSpec rest).1

theorem pieces_append_spec {path : Text} (colonless : ':' ∉ path) (count : Nat) (spec : Text) :
    pieces (path ++ List.replicate count '.' ++ ':' :: spec) = pieces path := by
  have inner : ':' ∉ path ++ List.replicate count '.' := by simp [colonless]
  rw [pieces_of_colonless colonless, pieces, splitSpec_append inner]
  simp only [splitSpec, ↓reduceIte, List.append_nil]
  exact pathPieces_append_dots path count

end Expression

end Stencil
