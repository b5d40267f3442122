import Stencil.Proofs.Data.Lookup
import Stencil.Proofs.Path.Composition
import Stencil.Proofs.Path.Spelling
import Stencil.Proofs.Render.Splice
import Stencil.Proofs.Writing.Texts

/-! Keys that are computed. In `{table.{choice}}` the text of the choice becomes the key under which the table
is asked: a text finds the entry of that very name, whatever characters it has, and an integer the item of
that index, never one counted from the end. -/

namespace Stencil

open Run Segment

structure Text.IsPlainName (name : Text) : Prop where
  inhabited : name ≠ []
  plain : ∀ c ∈ ['{', '}', '\\', '.', ':'], c ∉ name
  named : ¬name.IsDecimal

structure Text.IsKey (raw : Text) : Prop where
  inhabited : raw ≠ []
  dotless : '.' ∉ raw
  colonless : ':' ∉ raw

def choosing (table choice : Text) : Text :=
  '{' :: (table ++ '.' :: '{' :: (choice ++ ['}', '}']))

/-- What rendering and formatting a text do once its expression has found a value: its text is the text of
the value, with one diagnostic if the value is no scalar. -/
def ShowsAs (reentry : Reentry) (settings : Settings) (text : Text) (binding : Value) (world : World)
    (expression : Text) (found : Value) : Prop :=
  ∃ told, (∀ event ∈ told, event.isFinding = true) ∧
    let kind := found.kind world.store
    let diagnostics := if kind.isScalar then [] else [Diagnostic.of expression kind]
    (render reentry settings (compile text) binding).outcome world =
        (do return ⟨← found.coerce reentry, diagnostics⟩ : Run Rendering).outcome (world.noting told) ∧
      (format reentry settings (compile text) binding).outcome world =
        (do
          let written ← found.coerce reentry
          diagnostics.forM (emit settings)
          return written : Run Text).outcome (world.noting told)

/-- Rendering and formatting a text fail, and have done no more than note what was found on the way. -/
def FailsWith (reentry : Reentry) (settings : Settings) (text : Text) (binding : Value) (world : World)
    (failure : Failure) : Prop :=
  ∃ told, (∀ event ∈ told, event.isFinding = true) ∧
    (render reentry settings (compile text) binding).outcome world =
        (.error failure, world.noting told) ∧
      (format reentry settings (compile text) binding).outcome world =
        (.error failure, world.noting told)

section

variable {name table choice key expression : Text} {world : World} {binding node value : Value}

theorem Text.IsPlainName.isKey (plain : name.IsPlainName) : name.IsKey :=
  ⟨plain.inhabited, plain.plain '.' (by simp), plain.plain ':' (by simp)⟩

theorem Text.IsPlainName.braceless (plain : name.IsPlainName) : '{' ∉ name ∧ '}' ∉ name :=
  ⟨plain.plain '{' (by simp), plain.plain '}' (by simp)⟩

theorem Text.escapesNext_of_not_mem {text : Text} (plain : Groups.escape ∉ text) :
    text.escapesNext false = false := by
  obtain rfl | ⟨front, last, rfl⟩ := text.eq_nil_or_concat
  · rfl
  · have apart : last ≠ Groups.escape := by
      rintro rfl
      simp at plain
    rw [List.concat_eq_append, Text.escapesNext_append]
    simpa using apart

theorem compile_choosing (tableName : table.IsPlainName) (choiceName : choice.IsPlainName) :
    compile (choosing table choice) =
      [.placeholder [.literal (table ++ ['.']), .placeholder [.literal choice]]] := by
  have unescaping : (table ++ ['.']).escapesNext false = false := by
    apply Text.escapesNext_of_not_mem
    simp [Groups.escape, tableName.plain '\\' (by simp)]
  have inner : Tidy [.placeholder [.literal choice]] := by
    refine (tidy_placeholder_iff _).mpr ⟨(tidy_literal_iff _).mpr choiceName.inhabited, ?_, ?_⟩
    · simpa [Braceless] using choiceName.braceless
    · simpa [EndsPlain, endsEscaping] using
        Text.escapesNext_of_not_mem (choiceName.plain '\\' (by simp))
  have tidy : Tidy [.placeholder [.literal (table ++ ['.']), .placeholder [.literal choice]]] := by
    refine (tidy_placeholder_iff _).mpr ⟨?_, ?_, ?_⟩
    · refine (tidy_cons_iff _ _).mpr ⟨(tidy_literal_iff _).mpr (by simp), inner, ?_⟩
      simpa [Fits, isPlaceholder, endsEscaping] using unescaping
    · simpa [Braceless] using tableName.braceless
    · simp [EndsPlain, endsEscaping]
  have written : (Segment.placeholder [.literal (table ++ ['.']), .placeholder [.literal choice]]).source =
      choosing table choice := by
    simp [source, sourceAll, choosing]
  rw [← written]
  exact compile_source_placeholder tidy

theorem render_choosing (tableName : table.IsPlainName) (choiceName : choice.IsPlainName)
    (reentry : Reentry) (settings : Settings) (binding : Value) :
    render reentry settings (compile (choosing table choice)) binding = (do
      let (key, inner) ← renderExpression reentry settings binding choice
      let (text, own) ← renderExpression reentry settings binding (table ++ '.' :: key)
      return ⟨text, inner ++ own⟩) := by
  rw [compile_choosing tableName choiceName, render, renderLoop_eq_renderAllWith]
  simp [renderAllWith, renderWith]

theorem areKeys_of_isKey {raws : List Text} (keys : ∀ raw ∈ raws, raw.IsKey) :
    Expression.AreKeys raws where
  dotless := fun raw member => (keys raw member).dotless
  colonless := fun raw member => (keys raw member).colonless
  ended := fun last => (keys [] (List.mem_of_getLast? last)).inhabited rfl

theorem not_isLongDecimal_of_named (named : ¬name.IsDecimal) : ¬name.IsLongDecimal :=
  fun long => named long.1

theorem ofRaw_of_named (named : ¬name.IsDecimal) : Key.ofRaw name = ⟨name, none⟩ := by
  have unindexed : Key.isIndexText name = false := by
    simpa [← Key.isIndexText_iff] using named
  simp [Key.ofRaw, unindexed]

theorem resolve_intercalate {raws : List Text} (keys : ∀ raw ∈ raws, raw.IsKey)
    (short : ∀ raw ∈ raws, ¬raw.IsLongDecimal) (reentry : Reentry) (settings : Settings)
    (binding : Value) :
    resolve reentry settings binding (List.intercalate ['.'] raws) = (do
      let found ← walk reentry settings (List.intercalate ['.'] raws) binding (raws.map Key.ofRaw)
      noteFinding (List.intercalate ['.'] raws) found) := by
  have whole : Expression.spell raws 0 none = List.intercalate ['.'] raws := by
    simp [Expression.spell]
  have pieces : Expression.pieces (List.intercalate ['.'] raws) = raws := by
    rw [← whole]
    exact Expression.pieces_spell (areKeys_of_isKey keys) 0 none
  have readable : Expression.Readable (List.intercalate ['.'] raws) := by
    intro raw member
    rw [pieces] at member
    simpa [← Key.isTooLong_iff] using short raw member
  rw [resolve_of_readable readable, Expression.keysOf, pieces]

theorem isPlain_of_mapping (mapping : node.kind world.store = .mapping) : node.IsPlain world.store := by
  have itemless : node.items world.store = [] := Value.items_eq_nil (by simp [mapping])
  exact ⟨by simp [mapping], by simp [itemless]⟩

theorem outcome_step_name (mapping : node.kind world.store = .mapping) (named : ¬name.IsDecimal)
    (reentry : Reentry) (settings : Settings) (expression : Text) :
    (step reentry settings expression node (Key.ofRaw name)).outcome world =
      (.ok (((node.entries world.store).lookup (.text name)).getD .absent), world) := by
  rw [ofRaw_of_named named]
  exact outcome_step_of_finds (isPlain_of_mapping mapping) (.entry mapping) reentry settings expression

def showFound (reentry : Reentry) (expression : Text) (found : Value) : Run (Text × List Diagnostic) := do
  let kind := found.kind (← Run.store)
  let text ← found.coerce reentry
  return (text, if kind.isScalar then [] else [Diagnostic.of expression kind])

theorem renderExpression_eq (reentry : Reentry) (settings : Settings) (binding : Value)
    (expression : Text) :
    renderExpression reentry settings binding expression = (do
      let found ← resolve reentry settings binding expression
      showFound reentry expression found) := by
  rfl

theorem outcome_resolve_name (choiceName : name.IsPlainName)
    (mapping : binding.kind world.store = .mapping)
    (entry : (binding.entries world.store).lookup (.text name) = some value) (reentry : Reentry)
    (settings : Settings) :
    (resolve reentry settings binding name).outcome world = (noteFinding name value).outcome world := by
  have keys : ∀ raw ∈ [name], raw.IsKey := by
    simpa using choiceName.isKey
  have short : ∀ raw ∈ [name], ¬raw.IsLongDecimal := by
    simpa using not_isLongDecimal_of_named choiceName.named
  have read := resolve_intercalate keys short reentry settings binding
  rw [List.intercalate_singleton] at read
  rw [read, List.map_singleton, walk, List.foldlM_cons, outcome_bind, outcome_bind,
    outcome_step_name mapping choiceName.named, entry]
  rfl

theorem outcome_resolve_key (tableName : table.IsPlainName) (isKey : key.IsKey)
    (short : ¬key.IsLongDecimal) (mapping : binding.kind world.store = .mapping)
    (entry : (binding.entries world.store).lookup (.text table) = some value) (reentry : Reentry)
    (settings : Settings) :
    (resolve reentry settings binding (table ++ '.' :: key)).outcome world = (do
      let found ← step reentry settings (table ++ '.' :: key) value (Key.ofRaw key)
      noteFinding (table ++ '.' :: key) found : Run Value).outcome world := by
  have written : List.intercalate ['.'] [table, key] = table ++ '.' :: key := by
    simp
  have keys : ∀ raw ∈ [table, key], raw.IsKey := by
    simp [tableName.isKey, isKey]
  have shorts : ∀ raw ∈ [table, key], ¬raw.IsLongDecimal := by
    simp [not_isLongDecimal_of_named tableName.named, short]
  have read := resolve_intercalate keys shorts reentry settings binding
  rw [written] at read
  rw [read, List.map_cons, List.map_singleton, walk, List.foldlM_cons, outcome_bind, outcome_bind,
    outcome_step_name mapping tableName.named, entry]
  simp only [Option.getD_some, List.foldlM_cons, List.foldlM_nil, bind_pure]
  exact (outcome_bind ..).symm

end

structure Offers (world : World) (binding : Value) (table choice : Text) (held chosen : Value) :
    Prop where
  tableName : table.IsPlainName
  choiceName : choice.IsPlainName
  mapping : binding.kind world.store = .mapping
  tableEntry : (binding.entries world.store).lookup (.text table) = some held
  choiceEntry : (binding.entries world.store).lookup (.text choice) = some chosen

structure Value.Spells (value : Value) (reentry : Reentry) (key : Text) : Prop where
  scalar : ∀ store, (value.kind store).isScalar = true
  coerced : ∀ world, (value.coerce reentry).outcome world = (.ok key, world)

section

variable {table choice key : Text} {world : World} {binding held chosen found : Value}
variable {reentry : Reentry}

/-- Once the choice is spelled out, the template does what its outer expression does. -/
theorem outcome_render_choosing (offers : Offers world binding table choice held chosen)
    (spells : chosen.Spells reentry key) (settings : Settings) :
    ∃ told : Event, told.isFinding = true ∧
      (render reentry settings (compile (choosing table choice)) binding).outcome world =
        (do
          let (text, diagnostics) ← renderExpression reentry settings binding (table ++ '.' :: key)
          return ⟨text, diagnostics⟩ : Run Rendering).outcome (world.noting [told]) := by
  obtain ⟨told, finding, noted⟩ := outcome_noteFinding choice chosen world
  refine ⟨told, finding, ?_⟩
  have shown : (showFound reentry choice chosen).outcome (world.noting [told]) =
      (.ok (key, []), world.noting [told]) := by
    rw [showFound, outcome_bind, outcome_store]
    dsimp only
    rw [outcome_bind, spells.coerced, spells.scalar]
    rfl
  rw [render_choosing offers.tableName offers.choiceName, outcome_bind, renderExpression_eq,
    outcome_bind, outcome_resolve_name offers.choiceName offers.mapping offers.choiceEntry, noted]
  dsimp only
  rw [shown]
  rfl

theorem outcome_renderExpression_key (offers : Offers world binding table choice held chosen)
    (isKey : key.IsKey) (short : ¬key.IsLongDecimal) (settings : Settings) (events : List Event) :
    (renderExpression reentry settings binding (table ++ '.' :: key)).outcome (world.noting events) =
      (do
        let found ← step reentry settings (table ++ '.' :: key) held (Key.ofRaw key)
        let found ← noteFinding (table ++ '.' :: key) found
        showFound reentry (table ++ '.' :: key) found :
          Run (Text × List Diagnostic)).outcome (world.noting events) := by
  have mapping : binding.kind (world.noting events).store = .mapping := offers.mapping
  have entry : (binding.entries (world.noting events).store).lookup (.text table) = some held :=
    offers.tableEntry
  rw [renderExpression_eq, outcome_bind,
    outcome_resolve_key offers.tableName isKey short mapping entry, ← outcome_bind, bind_assoc]

theorem showsAs_of_step (offers : Offers world binding table choice held chosen)
    (spells : chosen.Spells reentry key) (isKey : key.IsKey) (short : ¬key.IsLongDecimal)
    {settings : Settings}
    (stepped : ∀ events, (step reentry settings (table ++ '.' :: key) held (Key.ofRaw key)).outcome
      (world.noting events) = (.ok found, world.noting events)) :
    ShowsAs reentry settings (choosing table choice) binding world (table ++ '.' :: key) found := by
  obtain ⟨first, finding, rendered⟩ := outcome_render_choosing offers spells settings
  obtain ⟨last, finding', noted⟩ :=
    outcome_noteFinding (table ++ '.' :: key) found (world.noting [first])
  have expanded : (render reentry settings (compile (choosing table choice)) binding).outcome world =
      (do
        let (text, diagnostics) ← showFound reentry (table ++ '.' :: key) found
        return ⟨text, diagnostics⟩ : Run Rendering).outcome (world.noting [first, last]) := by
    rw [rendered, outcome_bind, outcome_renderExpression_key offers isKey short, outcome_bind, stepped]
    dsimp only
    rw [outcome_bind, noted]
    simp only [World.noting, List.append_assoc, List.cons_append, List.nil_append]
    exact (outcome_bind ..).symm
  refine ⟨[first, last], by simp [finding, finding'], ?_, ?_⟩
  · rw [expanded, showFound]
    simp only [bind_assoc, pure_bind]
    rfl
  · rw [format, outcome_bind, expanded, ← outcome_bind, showFound]
    simp only [bind_assoc, pure_bind]
    rfl

theorem failsWith_of_step (offers : Offers world binding table choice held chosen)
    (spells : chosen.Spells reentry key) (isKey : key.IsKey) (short : ¬key.IsLongDecimal)
    {settings : Settings} {failure : Failure}
    (stepped : ∀ events, (step reentry settings (table ++ '.' :: key) held (Key.ofRaw key)).outcome
      (world.noting events) = (.error failure, world.noting events)) :
    FailsWith reentry settings (choosing table choice) binding world failure := by
  obtain ⟨first, finding, rendered⟩ := outcome_render_choosing offers spells settings
  have failed : (render reentry settings (compile (choosing table choice)) binding).outcome world =
      (.error failure, world.noting [first]) := by
    rw [rendered, outcome_bind, outcome_renderExpression_key offers isKey short, outcome_bind, stepped]
  refine ⟨[first], by simp [finding], failed, ?_⟩
  rw [format, outcome_bind, failed]

theorem text_spells (content : Text) : (Value.text content).Spells reentry content where
  scalar := fun _ => rfl
  coerced := fun _ => rfl

theorem integer_spells {n : Int} (short : n.natAbs < 10 ^ Numeral.digitLimit) :
    (Value.integer n).Spells reentry (Numeral.ofInt n) where
  scalar := fun _ => rfl
  coerced := by
    intro world
    have written := Value.integerText_of_short ((Numeral.exceedsLimit_eq_false_iff n).mpr short)
    change (Run.ofExcept (integerText n)).outcome world = _
    rw [written, outcome_ofExcept]

theorem isKey_of_digits {digits : Text} (inhabited : digits ≠ [])
    (decimal : ∀ c ∈ digits, Numeral.isDigit c = true) : digits.IsKey := by
  refine ⟨inhabited, fun inside => ?_, fun inside => ?_⟩
  · exact absurd (decimal '.' inside) (by decide)
  · exact absurd (decimal ':' inside) (by decide)

theorem isKey_ofInt (n : Int) : (Numeral.ofInt n).IsKey := by
  have digits : (Numeral.ofNat n.natAbs).IsKey :=
    isKey_of_digits (Numeral.ofNat_ne_nil _) (Numeral.isDigit_of_mem_ofNat _)
  unfold Numeral.ofInt
  split
  · exact ⟨by simp, by simp [digits.dotless], by simp [digits.colonless]⟩
  · exact digits

theorem not_isDecimal_of_neg {n : Int} (negative : n < 0) : ¬(Numeral.ofInt n).IsDecimal := by
  rw [Numeral.ofInt_of_neg negative]
  rintro ⟨_, decimal⟩
  exact absurd (decimal '-' List.mem_cons_self) (by decide)

theorem not_isLongDecimal_ofInt {n : Int} (short : n.natAbs < 10 ^ Numeral.digitLimit) :
    ¬(Numeral.ofInt n).IsLongDecimal := by
  rintro ⟨decimal, long⟩
  by_cases negative : n < 0
  · exact not_isDecimal_of_neg negative decimal
  · rw [Numeral.ofInt, if_neg negative] at long
    have bound := (Numeral.length_ofNat_le_digitLimit_iff n.natAbs).mpr short
    omega

/-- A key that is computed selects what it says. A text that is one key and no index finds the entry of that
name in a mapping, with no regard to what its characters would mean in a template, and shows nothing where
there is no such entry. An integer finds the item of that index in a sequence; one past the end and one
below zero fail. -/
theorem computed_key_selects (offers : Offers world binding table choice held chosen)
    (reentry : Reentry) (settings : Settings) :
    (held.kind world.store = .mapping → ∀ content, chosen = .text content → content.IsKey →
        ¬content.IsDecimal →
        ShowsAs reentry settings (choosing table choice) binding world (table ++ '.' :: content)
          (((held.entries world.store).lookup (.text content)).getD .absent)) ∧
      (held.kind world.store = .sequence → (held.items world.store).length < Nat.pow 2 63 →
        ∀ n, chosen = .integer n → n.natAbs < 10 ^ Numeral.digitLimit →
          (∀ (index : Nat) item, n = index → (held.items world.store)[index]? = some item →
            ShowsAs reentry settings (choosing table choice) binding world
              (table ++ '.' :: Numeral.ofInt n) item) ∧
          ((held.items world.store).length ≤ n →
            FailsWith reentry settings (choosing table choice) binding world
              (.indexOutOfRange (Numeral.ofInt n) (table ++ '.' :: Numeral.ofInt n) n
                (held.items world.store).length)) ∧
          (n < 0 →
            FailsWith reentry settings (choosing table choice) binding world
              (.typeMismatch (Numeral.ofInt n) (table ++ '.' :: Numeral.ofInt n)
                "mapping or object".toList "sequence".toList))) := by
  constructor
  · rintro mapping content rfl isKey named
    refine showsAs_of_step offers (text_spells content) isKey (not_isLongDecimal_of_named named) ?_
    intro events
    have still : held.kind (world.noting events).store = .mapping := mapping
    exact outcome_step_name still named reentry settings _
  · rintro sequence short n rfl digits
    have plain (events : List Event) : held.IsPlain (world.noting events).store :=
      ⟨by simp [World.noting, sequence], short⟩
    have unlong := not_isLongDecimal_ofInt digits
    refine ⟨?_, ?_, ?_⟩
    · rintro index item rfl found
      refine showsAs_of_step offers (integer_spells digits) (isKey_ofInt _) unlong fun events => ?_
      rw [Numeral.ofInt_natCast, Key.ofRaw_ofNat]
      exact outcome_step_of_finds (plain events) (.item sequence found) reentry settings _
    · intro beyond
      obtain ⟨index, rfl⟩ := Int.eq_ofNat_of_zero_le (show 0 ≤ n by omega)
      refine failsWith_of_step offers (integer_spells digits) (isKey_ofInt _) unlong fun events => ?_
      rw [Numeral.ofInt_natCast, Key.ofRaw_ofNat]
      exact outcome_step_of_fails (plain events)
        (.outside sequence (show (held.items world.store).length ≤ index by omega)) reentry settings
    · intro negative
      refine failsWith_of_step offers (integer_spells digits) (isKey_ofInt _) unlong fun events => ?_
      rw [ofRaw_of_named (not_isDecimal_of_neg negative)]
      have nameless : held.kind world.store ∈ [.sequence, .scalar, .absent] := by
        simp [sequence]
      have fails : Value.Fails world.store (table ++ '.' :: Numeral.ofInt n) held ⟨Numeral.ofInt n, none⟩ _ :=
        .noNames nameless
      rw [sequence] at fails
      exact outcome_step_of_fails (plain events) fails reentry settings

end

def hostileChoice : Text := "\x7bb\x7d \\\"\x7b".toList

def choices : World :=
  { World.empty with
    store :=
      #[.mapping .plain [(.text ['a'], .object 1), (.text ['b'], .text hostileChoice)],
        .mapping (.defaulting "<class 'list'>".toList)
          [(.text ['b'], .integer 4), (.text hostileChoice, .integer 5)],
        .mapping .ordered [(.text ['a'], .object 3), (.text ['b'], .integer (-1))],
        .sequence .list [.integer 7, .integer 8]] }

theorem isPlainName_singleton {c : Char} (letter : c ∈ ['a', 'b']) : Text.IsPlainName [c] := by
  simp only [List.mem_cons, List.not_mem_nil, or_false] at letter
  refine ⟨by simp, ?_, fun decimal => ?_⟩
  · rcases letter with rfl | rfl <;> simp
  · have digit := decimal.2 c List.mem_cons_self
    rcases letter with rfl | rfl <;> exact absurd digit (by decide)

theorem hostileChoice_selects :
    ShowsAs (.ofDepth 1) .default "\x7ba.\x7bb\x7d\x7d".toList (.object 0) choices
        ("a.".toList ++ hostileChoice) (.integer 5) ∧
      FailsWith (.ofDepth 1) .default "\x7ba.\x7bb\x7d\x7d".toList (.object 2) choices
        (.typeMismatch "-1".toList "a.-1".toList "mapping or object".toList "sequence".toList) := by
  have named : Offers choices (.object 0) ['a'] ['b'] (.object 1) (.text hostileChoice) :=
    ⟨isPlainName_singleton (by simp), isPlainName_singleton (by simp), rfl, rfl, rfl⟩
  have counted : Offers choices (.object 2) ['a'] ['b'] (.object 3) (.integer (-1)) :=
    ⟨isPlainName_singleton (by simp), isPlainName_singleton (by simp), rfl, rfl, rfl⟩
  have isKey : hostileChoice.IsKey := ⟨by decide, by decide, by decide⟩
  have undecimal : ¬hostileChoice.IsDecimal := by
    rintro ⟨_, decimal⟩
    exact absurd (decimal '{' (by decide)) (by decide)
  have digits : (-1 : Int).natAbs < 10 ^ Numeral.digitLimit :=
    Nat.one_lt_pow (by decide) (by decide)
  constructor
  · exact (computed_key_selects named (.ofDepth 1) .default).1 rfl hostileChoice rfl isKey undecimal
  · exact ((computed_key_selects counted (.ofDepth 1) .default).2 rfl (by decide) (-1) rfl digits).2.2
      (by decide)

end Stencil
