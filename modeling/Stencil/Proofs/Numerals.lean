import Mathlib.Data.List.Induction
import Mathlib.Data.Nat.Digits.Defs
import Stencil.Numeral

/-! Decimal numerals, written and read. The digits of a number are those of its tenth and one more; read
again they give the number back, and their count bounds it. -/

namespace Stencil

namespace Text

def IsDecimal (text : Text) : Prop :=
  text ≠ [] ∧ ∀ c ∈ text, '0' ≤ c ∧ c ≤ '9'

/-- A decimal numeral of more digits than are ever read; leading zeros count. -/
def IsLongDecimal (text : Text) : Prop :=
  text.IsDecimal ∧ Numeral.digitLimit < text.length

end Text

namespace Numeral

theorem toNat_digit {n : Nat} (small : n < 10) : (digit n).toNat = '0'.toNat + n := by
  have valid : ('0'.toNat + n).isValidChar := by
    left
    change 48 + n < 55296
    omega
  rw [digit, Char.ofNat, dif_pos valid]
  rfl

theorem isDigit_iff (c : Char) : isDigit c = true ↔ '0'.toNat ≤ c.toNat ∧ c.toNat ≤ '9'.toNat := by
  simp only [isDigit, Bool.and_eq_true, decide_eq_true_eq]
  exact Iff.rfl

theorem isDecimal_iff (text : Text) :
    text.IsDecimal ↔ text ≠ [] ∧ ∀ c ∈ text, isDigit c = true := by
  simp [Text.IsDecimal, isDigit]

theorem isDigit_digit {n : Nat} (small : n < 10) : isDigit (digit n) = true := by
  rw [isDigit_iff, toNat_digit small]
  change 48 ≤ 48 + n ∧ 48 + n ≤ 57
  omega

theorem digitsOnto_append (places n : Nat) (written : Text) :
    digitsOnto places n written = digitsOnto places n [] ++ written := by
  induction places generalizing n written with
  | zero => rfl
  | succ places ih =>
      rw [digitsOnto, digitsOnto]
      split
      · rfl
      · rw [ih (n / 10) (digit (n % 10) :: written), ih (n / 10) [digit (n % 10)]]
        simp

theorem digitsOnto_places {places others n : Nat} (enough : n < places) (enough' : n < others)
    (written : Text) : digitsOnto places n written = digitsOnto others n written := by
  induction places generalizing others n written with
  | zero => omega
  | succ places ih =>
      obtain ⟨others, rfl⟩ : ∃ fewer, others = fewer + 1 := ⟨others - 1, by omega⟩
      rw [digitsOnto, digitsOnto]
      split
      · rfl
      · exact ih (by omega) (by omega) _

theorem ofNat_of_lt {n : Nat} (small : n < 10) : ofNat n = [digit n] := by
  rw [ofNat, digitsOnto, if_pos small]

theorem ofNat_of_le {n : Nat} (large : 10 ≤ n) : ofNat n = ofNat (n / 10) ++ [digit (n % 10)] := by
  rw [ofNat, digitsOnto, if_neg (by omega), digitsOnto_append, ofNat,
    digitsOnto_places (show n / 10 < n by omega) (show n / 10 < n / 10 + 1 by omega)]

theorem ofNat_ne_nil (n : Nat) : ofNat n ≠ [] := by
  by_cases small : n < 10
  · simp [ofNat_of_lt small]
  · simp [ofNat_of_le (Nat.le_of_not_lt small)]

theorem isDigit_of_mem_ofNat (n : Nat) : ∀ c ∈ ofNat n, isDigit c = true := by
  induction n using Nat.strongRecOn with
  | ind n ih =>
      by_cases small : n < 10
      · simpa [ofNat_of_lt small] using isDigit_digit small
      · rw [ofNat_of_le (Nat.le_of_not_lt small)]
        intro c member
        rcases List.mem_append.mp member with member | member
        · exact ih (n / 10) (by omega) c member
        · rw [List.mem_singleton.mp member]
          exact isDigit_digit (Nat.mod_lt _ (by omega))

theorem value_append_singleton (digits : Text) (c : Char) :
    value (digits ++ [c]) = 10 * value digits + (c.toNat - '0'.toNat) := by
  simp [value]

theorem value_ofNat (n : Nat) : value (ofNat n) = n := by
  induction n using Nat.strongRecOn with
  | ind n ih =>
      by_cases small : n < 10
      · rw [ofNat_of_lt small]
        simp [value, toNat_digit small]
      · rw [ofNat_of_le (Nat.le_of_not_lt small), value_append_singleton, ih (n / 10) (by omega),
          toNat_digit (Nat.mod_lt _ (by omega))]
        omega

theorem value_eq_ofDigits (digits : Text) :
    value digits = Nat.ofDigits 10 (digits.reverse.map fun c => c.toNat - '0'.toNat) := by
  induction digits using List.reverseRecOn with
  | nil => rfl
  | append_singleton digits c ih =>
      rw [value_append_singleton, ih]
      simp [Nat.ofDigits_cons, Nat.add_comm]

theorem length_ofNat_le_iff (n places : Nat) :
    (ofNat n).length ≤ places + 1 ↔ n < 10 ^ (places + 1) := by
  induction places generalizing n with
  | zero =>
      by_cases small : n < 10
      · simp [ofNat_of_lt small, small]
      · have inhabited := List.length_pos_iff.mpr (ofNat_ne_nil (n / 10))
        rw [ofNat_of_le (Nat.le_of_not_lt small), List.length_append, List.length_singleton]
        omega
  | succ places ih =>
      by_cases small : n < 10
      · have power : 0 < 10 ^ (places + 1) := Nat.pow_pos (by omega)
        rw [ofNat_of_lt small, Nat.pow_succ, List.length_singleton]
        omega
      · have shorter := ih (n / 10)
        rw [Nat.div_lt_iff_lt_mul (by omega), ← Nat.pow_succ] at shorter
        rw [ofNat_of_le (Nat.le_of_not_lt small), List.length_append, List.length_singleton, ← shorter]
        omega

theorem length_ofNat_le_digitLimit_iff (n : Nat) :
    (ofNat n).length ≤ digitLimit ↔ n < 10 ^ digitLimit := by
  have bound := length_ofNat_le_iff n (digitLimit - 1)
  have limit : digitLimit - 1 + 1 = digitLimit := rfl
  rwa [limit] at bound

theorem exceedsLimit_eq_false_iff (n : Int) :
    exceedsLimit n = false ↔ n.natAbs < 10 ^ digitLimit := by
  simp [exceedsLimit, length_ofNat_le_digitLimit_iff]

theorem ofInt_natCast (n : Nat) : ofInt n = ofNat n := by
  simp [ofInt]

theorem ofInt_of_neg {n : Int} (negative : n < 0) : ofInt n = '-' :: ofNat n.natAbs := by
  simp [ofInt, negative]

end Numeral
end Stencil
