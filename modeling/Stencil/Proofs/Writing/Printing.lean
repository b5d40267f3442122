import Stencil.Json
import Stencil.Proofs.Writing.Reader

/-! What is printed as JSON says the data that were to be printed, in visible characters of seven bits. -/

namespace Stencil
namespace Datum

def IsVisible (text : Text) : Prop :=
  ∀ c ∈ text, ' ' ≤ c ∧ c ≤ '~'

instance (text : Text) : Decidable (IsVisible text) :=
  List.decidableBAll _ text

structure Prints (text : Text) (datum : Datum) : Prop where
  spells : Spells text datum
  visible : IsVisible text

section

variable {text other : Text}

theorem isVisible_append : IsVisible (text ++ other) ↔ IsVisible text ∧ IsVisible other :=
  List.forall_mem_append

theorem isVisible_cons (c : Char) : IsVisible (c :: text) ↔ (' ' ≤ c ∧ c ≤ '~') ∧ IsVisible text := by
  simp [IsVisible]

theorem isVisible_nil : IsVisible [] := by
  simp [IsVisible]

/-! Characters. -/

theorem hexDigit?_hexDigit {n : Nat} (small : n < 16) : hexDigit? (Text.hexDigit n) = some n := by
  have all : ∀ n < 16, hexDigit? (Text.hexDigit n) = some n := by decide
  exact all n small

theorem isVisible_hexDigit {n : Nat} (small : n < 16) :
    ' ' ≤ Text.hexDigit n ∧ Text.hexDigit n ≤ '~' := by
  have all : ∀ n < 16, ' ' ≤ Text.hexDigit n ∧ Text.hexDigit n ≤ '~' := by decide
  exact all n small

theorem length_hexDigits (width n : Nat) : (Text.hexDigits width n).length = width := by
  induction width generalizing n with
  | zero => rfl
  | succ width ih => simp [Text.hexDigits, ih]

theorem isVisible_hexDigits (width n : Nat) : IsVisible (Text.hexDigits width n) := by
  induction width generalizing n with
  | zero => exact isVisible_nil
  | succ width ih =>
      rw [Text.hexDigits, isVisible_append, isVisible_cons]
      exact ⟨ih _, isVisible_hexDigit (Nat.mod_lt _ (by omega)), isVisible_nil⟩

theorem hexValue?_hexDigits (width n : Nat) :
    hexValue? (Text.hexDigits width n) = some (n % 16 ^ width) := by
  induction width generalizing n with
  | zero => simp [Text.hexDigits, hexValue?, Nat.mod_one]
  | succ width ih =>
      have before := ih (n / 16)
      have last := hexDigit?_hexDigit (Nat.mod_lt n (show 0 < 16 by omega))
      rw [hexValue?] at before
      rw [Text.hexDigits, hexValue?, List.foldlM_append, before, Nat.pow_succ, Nat.mul_comm,
        Nat.mod_mul]
      simp [last, Nat.add_comm]

theorem spellsUnit_hexDigits {code : Nat} (small : code < 0x10000) :
    SpellsUnit (Text.hexDigits 4 code) code where
  four := length_hexDigits 4 code
  value := by
    rw [hexValue?_hexDigits]
    exact congrArg some (Nat.mod_eq_of_lt small)

theorem isVisible_unitEscape (code : Nat) : IsVisible (Json.unitEscape code) := by
  rw [Json.unitEscape, isVisible_cons, isVisible_cons]
  exact ⟨by decide, by decide, isVisible_hexDigits 4 code⟩

theorem spellsChar_numericEscape (c : Char) : SpellsChar (Json.numericEscape c.toNat) c := by
  have valid : c.toNat < 0xd800 ∨ 0xdfff < c.toNat ∧ c.toNat < 0x110000 := c.valid
  by_cases narrow : c.toNat < 0x10000
  · have unit : SpellsChar (Json.unitEscape c.toNat) (Char.ofNat c.toNat) := by
      apply SpellsChar.unit (spellsUnit_hexDigits narrow)
      · simp only [isHighSurrogate, Bool.and_eq_false_iff, decide_eq_false_iff_not]
        omega
      · simp only [isLowSurrogate, Bool.and_eq_false_iff, decide_eq_false_iff_not]
        omega
    rw [Char.ofNat_toNat] at unit
    rwa [Json.numericEscape, if_pos narrow]
  · let beyond := c.toNat - 0x10000
    have pair : SpellsChar (Json.unitEscape (0xd800 + beyond / 0x400) ++
        Json.unitEscape (0xdc00 + beyond % 0x400))
        (joinSurrogates (0xd800 + beyond / 0x400) (0xdc00 + beyond % 0x400)) := by
      apply SpellsChar.pair (spellsUnit_hexDigits (by omega)) _ (spellsUnit_hexDigits (by omega))
      · simp only [isLowSurrogate, Bool.and_eq_true, decide_eq_true_eq]
        omega
      · simp only [isHighSurrogate, Bool.and_eq_true, decide_eq_true_eq]
        omega
    have joined : 0x10000 + (0xd800 + beyond / 0x400 - 0xd800) * 0x400 +
        (0xdc00 + beyond % 0x400 - 0xdc00) = c.toNat := by
      omega
    rw [joinSurrogates, joined, Char.ofNat_toNat] at pair
    rwa [Json.numericEscape, if_neg narrow]

theorem isVisible_numericEscape (code : Nat) : IsVisible (Json.numericEscape code) := by
  rw [Json.numericEscape]
  split
  · exact isVisible_unitEscape code
  · exact isVisible_append.mpr ⟨isVisible_unitEscape _, isVisible_unitEscape _⟩

theorem spellsChar_escapeChar (c : Char) : SpellsChar (Json.escapeChar c) c := by
  unfold Json.escapeChar
  split_ifs with quote backslash newline carriage tab feed back visible
  · subst quote
    exact .short (by decide)
  · subst backslash
    exact .short (by decide)
  · subst newline
    exact .short (by decide)
  · subst carriage
    exact .short (by decide)
  · subst tab
    exact .short (by decide)
  · subst feed
    exact .short (by decide)
  · subst back
    exact .short (by decide)
  · exact .plain visible.1 quote backslash
  · exact spellsChar_numericEscape c

theorem isVisible_escapeChar (c : Char) : IsVisible (Json.escapeChar c) := by
  unfold Json.escapeChar
  split_ifs with _ _ _ _ _ _ _ visible
  iterate 7 · decide
  · simpa [IsVisible] using visible
  · exact isVisible_numericEscape c.toNat

theorem spellsString_stringText (content : Text) : SpellsString (Json.stringText content) content := by
  refine .quoted ?_
  induction content with
  | nil => exact .nil
  | cons c rest ih => exact .cons (spellsChar_escapeChar c) ih

theorem isVisible_stringText (content : Text) : IsVisible (Json.stringText content) := by
  have inside : IsVisible (content.flatMap Json.escapeChar) := by
    intro c member
    obtain ⟨whole, _, held⟩ := List.mem_flatMap.mp member
    exact isVisible_escapeChar whole c held
  rw [Json.stringText, isVisible_cons, isVisible_append, isVisible_cons]
  exact ⟨by decide, inside, by decide, isVisible_nil⟩

/-! Integers. -/

theorem head?_ofNat_eq_zero (n : Nat) (zero : (Numeral.ofNat n).head? = some '0') : n = 0 := by
  induction n using Nat.strongRecOn with
  | ind n ih =>
      by_cases small : n < 10
      · rw [Numeral.ofNat_of_lt small] at zero
        have code := congrArg Char.toNat (Option.some.inj zero)
        rw [Numeral.toNat_digit small] at code
        omega
      · rw [Numeral.ofNat_of_le (Nat.le_of_not_lt small), List.head?_append,
          Option.or_of_isSome (by simp [Numeral.ofNat_ne_nil])] at zero
        have none := ih (n / 10) (by omega) zero
        omega

theorem isWhole_ofNat (n : Nat) : IsWhole (Numeral.ofNat n) where
  decimal := (Numeral.isDecimal_iff _).mpr ⟨Numeral.ofNat_ne_nil n, Numeral.isDigit_of_mem_ofNat n⟩
  unpadded := fun zero => by
    rw [head?_ofNat_eq_zero n zero]
    rfl

theorem spellsNumber_ofInt (n : Int) : SpellsNumber (Numeral.ofInt n) (.integer n) := by
  have spells (negative : Bool) :
      SpellsNumber (signText negative ++ (Numeral.ofNat n.natAbs ++ ([] ++ [])))
        (.integer (signed negative n.natAbs)) := by
    have parts : SpellsNumber _ (ofNumber negative (Numeral.ofNat n.natAbs) none none) :=
      .parts (isWhole_ofNat n.natAbs) .none .none
    rwa [ofNumber, Numeral.value_ofNat] at parts
  by_cases negative : n < 0
  · have whole := spells true
    have same : signed true n.natAbs = n := by
      simp only [signed, ↓reduceIte]
      omega
    rw [same] at whole
    simpa [Numeral.ofInt, negative, signText] using whole
  · have whole := spells false
    have same : signed false n.natAbs = n := by
      simp only [signed, Bool.false_eq_true, ↓reduceIte]
      omega
    rw [same] at whole
    simpa [Numeral.ofInt, negative, signText] using whole

theorem isVisible_ofInt (n : Int) : IsVisible (Numeral.ofInt n) := by
  have digits : IsVisible (Numeral.ofNat n.natAbs) := by
    intro c member
    have digit := (Numeral.isDigit_iff c).mp (Numeral.isDigit_of_mem_ofNat _ c member)
    exact ⟨Nat.le_trans (by decide) digit.1, Nat.le_trans digit.2 (by decide)⟩
  rw [Numeral.ofInt]
  split
  · exact (isVisible_cons '-').mpr ⟨by decide, digits⟩
  · exact digits

/-! Values. -/

theorem prints_null : Prints Json.null.write .null where
  spells := .named (by simp [namedData, Json.write])
  visible := by decide

theorem prints_bool (flag : Bool) : Prints (Json.bool flag).write (.bool flag) where
  spells := .named (by cases flag <;> simp [namedData, Json.write, Json.boolText])
  visible := by
    cases flag <;> decide

theorem prints_integer (n : Int) : Prints (Json.integer n).write (.integer n) := by
  rw [Json.write]
  exact ⟨.number (spellsNumber_ofInt n), isVisible_ofInt n⟩

theorem prints_string (content : Text) : Prints (Json.string content).write (.string content) := by
  rw [Json.write]
  exact ⟨.string (spellsString_stringText content), isVisible_stringText content⟩

def Padded.bare (text : Text) : Padded where
  before := []
  text := text
  after := []
  blankBefore := by simp
  blankAfter := by simp

def Padded.spaced (text : Text) : Padded where
  before := [' ']
  text := text
  after := []
  blankBefore := by simp [blanks]
  blankAfter := by simp

theorem isVisible_intercalate {pieces : List Text} (visible : ∀ piece ∈ pieces, IsVisible piece) :
    IsVisible (List.intercalate [','] pieces) := by
  induction pieces with
  | nil => exact isVisible_nil
  | cons piece rest ih =>
      have later := ih fun other member => visible other (List.mem_cons_of_mem _ member)
      cases rest with
      | nil =>
          rw [List.intercalate_singleton]
          exact visible piece List.mem_cons_self
      | cons next others =>
          rw [List.intercalate_cons_cons, isVisible_append, isVisible_append, isVisible_cons]
          exact ⟨⟨visible piece List.mem_cons_self, by decide, isVisible_nil⟩, later⟩

theorem Padded.whole_bare (text : Text) : (Padded.bare text).whole = text := by
  simp [bare, whole]

theorem Prints.isSaidBy {datum : Datum} (prints : Prints text datum) : datum.IsSaidBy text :=
  ⟨.bare text, Padded.whole_bare text, prints.spells⟩

theorem Padded.whole_spaced (text : Text) : (Padded.spaced text).whole = ' ' :: text := by
  simp [spaced, whole]

theorem Padded.isVisible_spaced (visible : IsVisible text) : IsVisible (Padded.spaced text).whole := by
  rw [whole_spaced, isVisible_cons]
  exact ⟨by decide, visible⟩

theorem append_writeLaterItems (start : Text) (trees : List Json) :
    start ++ Json.writeLaterItems trees =
      List.intercalate [','] (start :: trees.map fun tree => (Padded.spaced tree.write).whole) := by
  induction trees generalizing start with
  | nil => simp [Json.writeLaterItems]
  | cons tree rest ih =>
      rw [List.map_cons, List.intercalate_cons_cons, ← ih, Padded.whole_spaced]
      simp [Json.writeLaterItems]

theorem prints_pieces {pieces : List Padded} {items : List Datum} (inhabited : pieces ≠ [])
    (prints : List.Forall₂ (fun piece item => IsVisible piece.whole ∧ Spells piece.text item)
      pieces items) :
    Prints ('[' :: (List.intercalate [','] (pieces.map Padded.whole) ++ [']'])) (.array items) := by
  rw [List.forall₂_and_left, List.forall₂_iff_zip] at prints
  obtain ⟨visible, same, spells⟩ := prints
  refine ⟨.array inhabited same fun _ _ => spells, ?_⟩
  rw [isVisible_cons, isVisible_append, isVisible_cons]
  exact ⟨by decide, isVisible_intercalate (List.forall_mem_map.mpr visible), by decide, isVisible_nil⟩

theorem prints_array {trees : List Json} {items : List Datum}
    (prints : List.Forall₂ (fun tree item => Prints tree.write item) trees items) :
    Prints (Json.array trees).write (.array items) := by
  cases prints with
  | nil =>
      have spells : Spells ('[' :: ([] ++ [']'])) (.array []) := .emptyArray (by simp)
      exact ⟨spells, by decide⟩
  | @cons tree item trees items head tail =>
      have inside := prints_pieces (List.cons_ne_nil (.bare tree.write) _)
        (.cons ⟨by rw [Padded.whole_bare]; exact head.visible, head.spells⟩
          (List.forall₂_map_left_iff.mpr
            (tail.imp fun tree item prints => ⟨Padded.isVisible_spaced prints.visible, prints.spells⟩)))
      rw [List.map_cons, List.map_map, Padded.whole_bare] at inside
      rw [Json.write, Json.writeItems, append_writeLaterItems]
      exact inside

def FieldText.bare (name : Text) (value : Text) : FieldText :=
  ⟨.bare (Json.stringText name), .spaced value⟩

def FieldText.spaced (name : Text) (value : Text) : FieldText :=
  ⟨.spaced (Json.stringText name), .spaced value⟩

theorem append_writeLaterFields (start : Text) (fields : List (Text × Json)) :
    start ++ Json.writeLaterFields fields =
      List.intercalate [',']
        (start :: fields.map fun field => (FieldText.spaced field.1 field.2.write).whole) := by
  induction fields generalizing start with
  | nil => simp [Json.writeLaterFields]
  | cons field rest ih =>
      rw [List.map_cons, List.intercalate_cons_cons, ← ih]
      simp [Json.writeLaterFields, FieldText.whole, FieldText.spaced, Padded.whole_spaced]

theorem prints_fieldPieces {pieces : List FieldText} {fields : List (Text × Datum)}
    (inhabited : pieces ≠ [])
    (prints : List.Forall₂ (fun piece field => IsVisible piece.whole ∧
      SpellsString piece.name.text field.1 ∧ Spells piece.value.text field.2) pieces fields) :
    Prints ('{' :: (List.intercalate [','] (pieces.map FieldText.whole) ++ ['}'])) (.object fields) := by
  rw [List.forall₂_and_left, List.forall₂_iff_zip] at prints
  obtain ⟨visible, same, spells⟩ := prints
  refine ⟨.object inhabited same (fun _ _ member => (spells member).1)
    fun _ _ member => (spells member).2, ?_⟩
  rw [isVisible_cons, isVisible_append, isVisible_cons]
  exact ⟨by decide, isVisible_intercalate (List.forall_mem_map.mpr visible), by decide, isVisible_nil⟩

theorem FieldText.isVisible_whole (name : Text) {value : Text} (visible : IsVisible value) :
    IsVisible (FieldText.bare name value).whole ∧ IsVisible (FieldText.spaced name value).whole := by
  have named := isVisible_stringText name
  have valued := Padded.isVisible_spaced visible
  simp only [FieldText.whole, bare, spaced, Padded.whole_bare, isVisible_append, isVisible_cons]
  exact ⟨⟨named, by decide, valued⟩, Padded.isVisible_spaced named, by decide, valued⟩

theorem prints_object {trees : List (Text × Json)} {fields : List (Text × Datum)}
    (prints : List.Forall₂ (fun tree field => tree.1 = field.1 ∧ Prints tree.2.write field.2)
      trees fields) :
    Prints (Json.object trees).write (.object fields) := by
  cases prints with
  | nil =>
      have spells : Spells ('{' :: ([] ++ ['}'])) (.object []) := .emptyObject (by simp)
      exact ⟨spells, by decide⟩
  | @cons tree field trees fields head tail =>
      have named (tree : Text × Json) (field : Text × Datum) (same : tree.1 = field.1) :
          SpellsString (Json.stringText tree.1) field.1 :=
        same ▸ spellsString_stringText tree.1
      have inside := prints_fieldPieces (List.cons_ne_nil (.bare tree.1 tree.2.write) _)
        (.cons ⟨(FieldText.isVisible_whole _ head.2.visible).1, named _ _ head.1, head.2.spells⟩
          (List.forall₂_map_left_iff.mpr (tail.imp fun tree field prints =>
            ⟨(FieldText.isVisible_whole _ prints.2.visible).2, named _ _ prints.1, prints.2.spells⟩)))
      have start : (FieldText.bare tree.1 tree.2.write).whole =
          Json.stringText tree.1 ++ ':' :: ' ' :: tree.2.write := by
        rw [FieldText.whole, FieldText.bare, Padded.whole_bare, Padded.whole_spaced]
      rw [List.map_cons, List.map_map, start] at inside
      rw [Json.write, Json.writeFields]
      have later := append_writeLaterFields (Json.stringText tree.1 ++ ':' :: ' ' :: tree.2.write) trees
      rw [List.append_assoc, List.cons_append, List.cons_append] at later
      rw [later]
      exact inside

end
end Datum
end Stencil
