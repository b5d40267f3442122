import Mathlib.Data.List.Forall2
import Mathlib.Data.List.Zip
import Stencil.Proofs.Writing.Grammar

/-! A reader of JSON texts. What the grammar allows is read as what it says, so that no text says two
things. -/

namespace Stencil
namespace Datum

def marks : List Char := [',', ':', ']', '}']

def skipBlank (text : Text) : Text :=
  text.dropWhile (blanks.contains ·)

section Strings

def readUnit (text : Text) : Option (Nat × Text) :=
  if (text.take 4).length = 4 then (hexValue? (text.take 4)).map (·, text.drop 4) else none

def readLow (high : Nat) (text : Text) : Option (Char × Text) :=
  if ['\\', 'u'].isPrefixOf text then do
    let (low, rest) ← readUnit (text.drop 2)
    if isLowSurrogate low then some (joinSurrogates high low, rest) else none
  else none

def readNumbered (text : Text) : Option (Char × Text) := do
  let (code, rest) ← readUnit text
  if isHighSurrogate code then readLow code rest
  else if isLowSurrogate code then none
  else some (Char.ofNat code, rest)

def readEscape : Text → Option (Char × Text)
  | [] => none
  | letter :: rest =>
    if letter = 'u' then readNumbered rest else (shortEscapes.lookup letter).map (·, rest)

def readChar : Text → Option (Char × Text)
  | [] => none
  | c :: rest =>
    if c = '\\' then readEscape rest else if c < ' ' then none else some (c, rest)

def readChars : (bound : Nat) → Text → Option (Text × Text)
  | 0, _ => none
  | bound + 1, text =>
    if text.head? = some '"' then some ([], text.tail)
    else do
      let (c, rest) ← readChar text
      let (content, rest) ← readChars bound rest
      some (c :: content, rest)

def readString (text : Text) : Option (Text × Text) :=
  if text.head? = some '"' then readChars text.length text.tail else none

end Strings

section Numbers

def readDigits (text : Text) : Option (Text × Text) :=
  let digits := text.takeWhile Numeral.isDigit
  if digits = [] then none else some (digits, text.dropWhile Numeral.isDigit)

def readPlaces (text : Text) : Option (Option Text × Text) :=
  if text.head? = some '.' then (readDigits text.tail).map fun (digits, rest) => (some digits, rest)
  else some (none, text)

def readPower : Text → Option (Option Int × Text)
  | [] => some (none, [])
  | letter :: rest =>
    if letter ∈ exponentLetters then
      let sign := rest.head?.filter (['+', '-'].contains ·)
      (readDigits (if sign.isSome then rest.tail else rest)).map fun (digits, rest) =>
        (some (signed (sign == some '-') (Numeral.value digits)), rest)
    else some (none, letter :: rest)

def readNumber (text : Text) : Option (Datum × Text) := do
  let negative := text.head? == some '-'
  let (whole, rest) ← readDigits (if negative then text.tail else text)
  if whole.head? = some '0' ∧ whole ≠ ['0'] then none
  else
    let (places, rest) ← readPlaces rest
    let (power, rest) ← readPower rest
    some (ofNumber negative whole places power, rest)

end Numbers

section Series

variable {α : Type}

def readPadded (readOne : Text → Option (α × Text)) (text : Text) : Option (α × Text) := do
  let (item, rest) ← readOne (skipBlank text)
  some (item, skipBlank rest)

def readSeries (readOne : Text → Option (α × Text)) (stop : Char) :
    (bound : Nat) → Text → Option (List α × Text)
  | 0, _ => none
  | bound + 1, text => do
    let (item, rest) ← readOne text
    if rest.head? = some stop then some ([item], rest.tail)
    else if rest.head? = some ',' then do
      let (items, rest) ← readSeries readOne stop bound rest.tail
      some (item :: items, rest)
    else none

def readItems (readOne : Text → Option (α × Text)) (stop : Char) (text : Text) : Option (List α × Text) :=
  if (skipBlank text).head? = some stop then some ([], (skipBlank text).tail)
  else readSeries readOne stop text.length text

def readField (readOne : Text → Option (α × Text)) (text : Text) : Option ((Text × α) × Text) := do
  let (name, rest) ← readPadded readString text
  if rest.head? = some ':' then do
    let (value, rest) ← readPadded readOne rest.tail
    some ((name, value), rest)
  else none

end Series

def readNamed (text : Text) : Option (Datum × Text) :=
  namedData.findSome? fun (name, datum) =>
    if name.isPrefixOf text then some (datum, text.drop name.length) else none

def readFrom : (depth : Nat) → Text → Option (Datum × Text)
  | 0, _ => none
  | _ + 1, [] => none
  | depth + 1, first :: rest =>
    if first = '"' then (readString (first :: rest)).map fun (content, rest) => (.string content, rest)
    else if first = '[' then
      (readItems (readPadded (readFrom depth)) ']' rest).map fun (items, rest) => (.array items, rest)
    else if first = '{' then
      (readItems (readField (readFrom depth)) '}' rest).map fun (fields, rest) => (.object fields, rest)
    else if first = '-' ∨ Numeral.isDigit first then readNumber (first :: rest)
    else readNamed (first :: rest)

def read (text : Text) : Option Datum := do
  let (datum, rest) ← readPadded (readFrom text.length) text
  if rest = [] then some datum else none

/-! What may stand behind a value, without its blanks and with them. -/

def Closes (rest : Text) : Prop :=
  ∀ c ∈ rest.head?, c ∈ marks

def Ends (rest : Text) : Prop :=
  ∀ c ∈ rest.head?, c ∈ blanks ++ marks

def Begins (text : Text) : Prop :=
  ∃ c ∈ text.head?, c ∉ blanks ++ marks

/-- A reader finds an item at the front of a text, whatever comes behind it. -/
def Reads {α : Type} (readOne : Text → Option (α × Text)) (allowed : Text → Prop) (piece : Text)
    (item : α) : Prop :=
  ∀ rest, allowed rest → readOne (piece ++ rest) = some (item, rest)

structure ReadsPadded {α : Type} (readOne : Text → Option (α × Text)) (piece : Text) (item : α) : Prop where
  reads : Reads readOne Closes piece item
  begins : ∀ rest, ∃ c ∈ (skipBlank (piece ++ rest)).head?, c ∉ marks

section

variable {α : Type} {text rest piece digits content : Text} {datum : Datum}

theorem skipBlank_append {blank : Text} (white : ∀ c ∈ blank, c ∈ blanks) (rest : Text) :
    skipBlank (blank ++ rest) = skipBlank rest := by
  apply List.dropWhile_append_of_pos
  intro c member
  simpa using white c member

theorem skipBlank_of_head (inked : ∀ c ∈ text.head?, c ∉ blanks) : skipBlank text = text := by
  cases text with
  | nil => rfl
  | cons c rest =>
      have ink : c ∉ blanks := inked c rfl
      rw [skipBlank, List.dropWhile_cons_of_neg (by simpa using ink)]

theorem Closes.skipBlank_eq (closes : Closes rest) : skipBlank rest = rest := by
  have inked : ∀ c ∈ marks, c ∉ blanks := by
    simp [marks, blanks]
  exact skipBlank_of_head fun c member => inked c (closes c member)

theorem Closes.ends {blank : Text} (closes : Closes rest) (white : ∀ c ∈ blank, c ∈ blanks) :
    Ends (blank ++ rest) := by
  intro c member
  cases blank with
  | nil => exact List.mem_append_right _ (closes c member)
  | cons first others =>
      cases member
      exact List.mem_append_left _ (white _ List.mem_cons_self)

theorem closes_cons {c : Char} (mark : c ∈ marks) (rest : Text) : Closes (c :: rest) := by
  rintro _ ⟨⟩
  exact mark

theorem Begins.append (begins : Begins text) (rest : Text) : Begins (text ++ rest) := by
  obtain ⟨c, member, ink⟩ := begins
  cases text with
  | nil => cases member
  | cons first others => exact ⟨c, member, ink⟩

theorem Begins.skipBlank_eq (begins : Begins text) : skipBlank text = text := by
  obtain ⟨c, member, ink⟩ := begins
  refine skipBlank_of_head fun other found => ?_
  cases Option.mem_unique found member
  exact fun white => ink (List.mem_append_left _ white)

/-! Strings. -/

theorem readUnit_of_spells {code : Nat} (spells : SpellsUnit digits code) (rest : Text) :
    readUnit (digits ++ rest) = some (code, rest) := by
  rw [readUnit, List.take_left' spells.four, List.drop_left' spells.four, if_pos spells.four,
    spells.value]
  rfl

theorem readEscape_of_short {letter c : Char} (short : (letter, c) ∈ shortEscapes) (rest : Text) :
    readEscape (letter :: rest) = some (c, rest) := by
  have found : ∀ pair ∈ shortEscapes, pair.1 ≠ 'u' ∧ shortEscapes.lookup pair.1 = some pair.2 := by
    decide
  obtain ⟨other, looked⟩ := found _ short
  rw [readEscape, if_neg other, looked]
  rfl

theorem readChar_of_spells {c : Char} (spells : SpellsChar piece c) (rest : Text) :
    readChar (piece ++ rest) = some (c, rest) := by
  cases spells with
  | plain visible _ other =>
      simp only [List.singleton_append, readChar]
      rw [if_neg other, if_neg (Char.not_lt.mpr visible)]
  | short short => exact readEscape_of_short short rest
  | @unit digits code spells high low =>
      change readNumbered (digits ++ rest) = _
      rw [readNumbered, readUnit_of_spells spells]
      simp [high, low]
  | @pair digits others high low first isHigh second isLow =>
      change readNumbered ((digits ++ '\\' :: 'u' :: others) ++ rest) = _
      rw [List.append_assoc, readNumbered, readUnit_of_spells first]
      simp [isHigh, isLow, readLow, readUnit_of_spells second]

theorem exists_head_of_spellsChar {c : Char} (spells : SpellsChar piece c) :
    ∃ head tail, piece = head :: tail ∧ head ≠ '"' := by
  cases spells with
  | plain _ other _ => exact ⟨c, [], rfl, other⟩
  | _ => exact ⟨'\\', _, rfl, by decide⟩

theorem readChars_of_spells (spells : SpellsChars piece content) (rest : Text) :
    ∀ bound, piece.length < bound → readChars bound (piece ++ '"' :: rest) = some (content, rest) := by
  induction spells with
  | nil =>
      intro bound enough
      obtain ⟨fewer, rfl⟩ := Nat.exists_eq_succ_of_ne_zero (Nat.ne_of_gt enough)
      rfl
  | @cons head c others content spells _ ih =>
      intro bound enough
      obtain ⟨fewer, rfl⟩ := Nat.exists_eq_succ_of_ne_zero (Nat.ne_of_gt (Nat.zero_lt_of_lt enough))
      have char := readChar_of_spells spells (others ++ '"' :: rest)
      obtain ⟨start, tail, rfl, unquoted⟩ := exists_head_of_spellsChar spells
      have later : readChars fewer (others ++ '"' :: rest) = some (content, rest) := by
        apply ih
        simp only [List.cons_append, List.length_cons, List.length_append] at enough
        omega
      rw [List.append_assoc, readChars, if_neg (by simpa using unquoted), char]
      simp [later]

theorem readString_of_spells (spells : SpellsString piece content) (rest : Text) :
    readString (piece ++ rest) = some (content, rest) := by
  cases spells with
  | @quoted inside _ spells =>
      rw [List.cons_append, List.append_assoc, readString, if_pos List.head?_cons]
      refine readChars_of_spells spells rest _ ?_
      simp only [List.length_cons, List.length_append]
      omega

theorem SpellsString.begins (spells : SpellsString piece content) : Begins piece := by
  cases spells with
  | quoted _ => exact ⟨'"', rfl, by decide⟩

/-! Numbers. -/

def Undigits (rest : Text) : Prop :=
  ∀ c ∈ rest.head?, Numeral.isDigit c = false

theorem readDigits_of_decimal (decimal : digits.IsDecimal) (stops : Undigits rest) :
    readDigits (digits ++ rest) = some (digits, rest) := by
  obtain ⟨inhabited, all⟩ := (Numeral.isDecimal_iff digits).mp decimal
  have stopped : rest.takeWhile Numeral.isDigit = [] ∧ rest.dropWhile Numeral.isDigit = rest := by
    cases rest with
    | nil => exact ⟨rfl, rfl⟩
    | cons c rest => simp [stops c rfl]
  rw [readDigits, List.takeWhile_append_of_pos all, List.dropWhile_append_of_pos all, stopped.1,
    stopped.2]
  simp [inhabited]

theorem undigits_cons {c : Char} (other : Numeral.isDigit c = false) (rest : Text) :
    Undigits (c :: rest) := by
  rintro _ ⟨⟩
  exact other

theorem not_isDigit_of_ends {c : Char} (among : c ∈ blanks ++ marks) : Numeral.isDigit c = false := by
  have all : ∀ c ∈ blanks ++ marks, Numeral.isDigit c = false := by
    simp [blanks, marks, Numeral.isDigit]
  exact all c among

theorem Ends.undigits (ends : Ends rest) : Undigits rest := by
  exact fun c found => not_isDigit_of_ends (ends c found)

theorem head_of_power {power : Option Int} (spells : SpellsPower piece power) (ends : Ends rest) :
    ∀ c ∈ (piece ++ rest).head?, c ∈ exponentLetters ++ (blanks ++ marks) := by
  intro c found
  cases spells with
  | none => exact List.mem_append_right _ (ends c found)
  | _ isLetter =>
      cases found
      exact List.mem_append_left _ isLetter

theorem readPower_of_spells {power : Option Int} (spells : SpellsPower piece power) (ends : Ends rest) :
    readPower (piece ++ rest) = some (power, rest) := by
  cases spells with
  | none =>
      cases rest with
      | nil => rfl
      | cons c rest =>
          have other : ∀ c ∈ blanks ++ marks, c ∉ exponentLetters := by
            simp [blanks, marks, exponentLetters]
          rw [List.nil_append, readPower, if_neg (other c (ends c rfl))]
  | @plain letter digits isLetter decimal =>
      obtain ⟨inhabited, all⟩ := (Numeral.isDecimal_iff digits).mp decimal
      obtain ⟨c, others, rfl⟩ := List.exists_cons_of_ne_nil inhabited
      have digit := all c List.mem_cons_self
      have unsigned : c ≠ '+' ∧ c ≠ '-' := by
        constructor <;> rintro rfl <;> cases digit
      have found := readDigits_of_decimal decimal ends.undigits
      rw [List.cons_append] at found
      simp [readPower, isLetter, unsigned, found, signed]
  | plus isLetter decimal =>
      simp [readPower, isLetter, readDigits_of_decimal decimal ends.undigits, signed]
  | minus isLetter decimal =>
      simp [readPower, isLetter, readDigits_of_decimal decimal ends.undigits, signed]

theorem readPlaces_of_spells {places : Option Text} {power : Option Int} {powerText : Text}
    (spells : SpellsPlaces piece places) (spells' : SpellsPower powerText power) (ends : Ends rest) :
    Undigits (piece ++ (powerText ++ rest)) ∧
      readPlaces (piece ++ (powerText ++ rest)) = some (places, powerText ++ rest) := by
  have other : ∀ c ∈ exponentLetters ++ (blanks ++ marks), Numeral.isDigit c = false ∧ c ≠ '.' := by
    simp [exponentLetters, blanks, marks, Numeral.isDigit]
  have after : Undigits (powerText ++ rest) :=
    fun c found => (other c (head_of_power spells' ends c found)).1
  cases spells with
  | some decimal =>
      refine ⟨undigits_cons rfl _, ?_⟩
      simp [readPlaces, readDigits_of_decimal decimal after]
  | none =>
      have unpointed : (powerText ++ rest).head? ≠ some '.' := by
        intro found
        exact (other '.' (head_of_power spells' ends _ found)).2 rfl
      refine ⟨after, ?_⟩
      rw [List.nil_append, readPlaces, if_neg unpointed]

theorem readNumber_of_spells (spells : SpellsNumber piece datum) (ends : Ends rest) :
    readNumber (piece ++ rest) = some (datum, rest) := by
  cases spells with
  | @parts negative whole placesText powerText places power isWhole spellsPlaces spellsPower =>
      obtain ⟨undigits, placesRead⟩ := readPlaces_of_spells spellsPlaces spellsPower ends
      have wholeRead := readDigits_of_decimal isWhole.decimal undigits
      obtain ⟨inhabited, all⟩ := (Numeral.isDecimal_iff whole).mp isWhole.decimal
      obtain ⟨c, others, rfl⟩ := List.exists_cons_of_ne_nil inhabited
      have unsigned : (c == '-') = false := by
        rw [beq_eq_false_iff_ne]
        rintro rfl
        cases all _ List.mem_cons_self
      have unpadded (zero : c = '0') : c = '0' ∧ others = [] := by
        simpa using isWhole.unpadded (congrArg some zero)
      have powerRead := readPower_of_spells spellsPower ends
      rw [List.cons_append] at wholeRead
      cases negative with
      | false => simpa [readNumber, signText, unsigned, wholeRead, placesRead, powerRead] using unpadded
      | true => simpa [readNumber, signText, wholeRead, placesRead, powerRead] using unpadded

/-! Series. -/

theorem readsPadded {readOne : Text → Option (α × Text)} {padded : Padded} {item : α}
    (begins : Begins padded.text) (reads : Reads readOne Ends padded.text item) :
    ReadsPadded (readPadded readOne) padded.whole item := by
  have stripped (rest : Text) :
      skipBlank (padded.whole ++ rest) = padded.text ++ (padded.after ++ rest) := by
    rw [Padded.whole, List.append_assoc, List.append_assoc, skipBlank_append padded.blankBefore,
      (begins.append _).skipBlank_eq]
  constructor
  · intro rest closes
    have found := reads (padded.after ++ rest) (closes.ends padded.blankAfter)
    rw [readPadded, stripped, found]
    simp [skipBlank_append padded.blankAfter, closes.skipBlank_eq]
  · intro rest
    obtain ⟨c, found, ink⟩ := begins.append (padded.after ++ rest)
    rw [stripped]
    exact ⟨c, found, fun mark => ink (List.mem_append_right _ mark)⟩

theorem exists_intercalate_append (piece : Text) (others : List Text) (rest : Text) :
    ∃ tail, List.intercalate [','] (piece :: others) ++ rest = piece ++ tail := by
  cases others with
  | nil => exact ⟨rest, by rw [List.intercalate_singleton]⟩
  | cons next later =>
      rw [List.intercalate_cons_cons, List.append_assoc, List.append_assoc]
      exact ⟨_, rfl⟩

theorem length_le_intercalate (pieces : List Text) :
    pieces.length ≤ (List.intercalate [','] pieces).length + 1 := by
  induction pieces with
  | nil => simp
  | cons piece rest ih =>
      cases rest with
      | nil => simp
      | cons next others =>
          simp only [List.intercalate_cons_cons, List.length_append, List.length_cons] at ih ⊢
          omega

theorem length_le_intercalate_of_mem {pieces : List Text} (member : piece ∈ pieces) :
    piece.length ≤ (List.intercalate [','] pieces).length := by
  induction pieces with
  | nil => cases member
  | cons head rest ih =>
      cases rest with
      | nil =>
          cases List.mem_singleton.mp member
          rw [List.intercalate_singleton]
      | cons next others =>
          simp only [List.intercalate_cons_cons, List.length_append]
          rcases List.mem_cons.mp member with rfl | later
          · omega
          · have shorter := ih later
            omega

section

variable {readOne : Text → Option (α × Text)} {stop : Char} {pieces : List Text} {items : List α}

theorem readSeries_of_forall₂ (reads : List.Forall₂ (ReadsPadded readOne) pieces items)
    (inhabited : pieces ≠ []) (mark : stop ∈ marks) (other : stop ≠ ',') (rest : Text) :
    ∀ bound, pieces.length ≤ bound →
      readSeries readOne stop bound (List.intercalate [','] pieces ++ stop :: rest) = some (items, rest) := by
  induction reads with
  | nil => exact absurd rfl inhabited
  | @cons piece item pieces items head tail ih =>
      intro bound enough
      obtain ⟨fewer, rfl⟩ := Nat.exists_eq_succ_of_ne_zero (Nat.ne_of_gt (Nat.zero_lt_of_lt enough))
      rw [List.length_cons] at enough
      cases tail with
      | nil =>
          rw [List.intercalate_singleton, readSeries, head.reads _ (closes_cons mark rest)]
          simp
      | cons next later =>
          have comma : (',' : Char) ∈ marks := by decide
          have others := ih (by simp) fewer (by omega)
          rw [List.intercalate_cons_cons, List.append_assoc, List.append_assoc, List.singleton_append,
            readSeries, head.reads _ (closes_cons comma _)]
          simp [other.symm, others]

theorem readItems_of_forall₂ (reads : List.Forall₂ (ReadsPadded readOne) pieces items)
    (inhabited : pieces ≠ []) (mark : stop ∈ marks) (other : stop ≠ ',') (rest : Text) :
    readItems readOne stop (List.intercalate [','] pieces ++ stop :: rest) = some (items, rest) := by
  have unclosed : (skipBlank (List.intercalate [','] pieces ++ stop :: rest)).head? ≠ some stop := by
    cases reads with
    | nil => exact absurd rfl inhabited
    | @cons piece _ others _ head _ =>
        obtain ⟨tail, joined⟩ := exists_intercalate_append piece others (stop :: rest)
        obtain ⟨c, found, ink⟩ := head.begins tail
        rw [joined, Option.mem_def.mp found]
        rintro ⟨⟩
        exact ink mark
  have enough := length_le_intercalate pieces
  rw [readItems, if_neg unclosed]
  apply readSeries_of_forall₂ reads inhabited mark other
  rw [List.length_append, List.length_cons]
  omega

theorem readItems_nil {blank : Text} (white : ∀ c ∈ blank, c ∈ blanks) (mark : stop ∈ marks)
    (rest : Text) : readItems readOne stop (blank ++ stop :: rest) = some ([], rest) := by
  rw [readItems, skipBlank_append white, (closes_cons mark rest).skipBlank_eq]
  simp

theorem readsField {field : FieldText} {name : Text} {item : α}
    (named : SpellsString field.name.text name) (begins : Begins field.value.text)
    (reads : Reads readOne Ends field.value.text item) :
    ReadsPadded (readField readOne) field.whole (name, item) := by
  have colon : (':' : Char) ∈ marks := by decide
  have nameRead := readsPadded named.begins fun rest _ => readString_of_spells named rest
  have valueRead := readsPadded begins reads
  constructor
  · intro rest closes
    rw [FieldText.whole, List.append_assoc, List.cons_append, readField,
      nameRead.reads _ (closes_cons colon _)]
    simp [valueRead.reads rest closes]
  · intro rest
    rw [FieldText.whole, List.append_assoc]
    exact nameRead.begins _

end

/-! Values. -/

theorem SpellsNumber.exists_head (spells : SpellsNumber piece datum) :
    ∃ c tail, piece = c :: tail ∧ (c = '-' ∨ Numeral.isDigit c = true) := by
  cases spells with
  | @parts negative whole _ _ _ _ isWhole =>
      obtain ⟨inhabited, all⟩ := (Numeral.isDecimal_iff whole).mp isWhole.decimal
      obtain ⟨c, others, rfl⟩ := List.exists_cons_of_ne_nil inhabited
      cases negative with
      | true => exact ⟨'-', _, rfl, Or.inl rfl⟩
      | false => exact ⟨c, _, rfl, Or.inr (all c List.mem_cons_self)⟩

theorem Spells.begins (spells : Spells piece datum) : Begins piece := by
  cases spells with
  | named named =>
      simp only [namedData, List.mem_cons, Prod.mk.injEq, List.not_mem_nil, or_false] at named
      rcases named with ⟨rfl, _⟩ | ⟨rfl, _⟩ | ⟨rfl, _⟩
      · exact ⟨'n', rfl, by decide⟩
      · exact ⟨'t', rfl, by decide⟩
      · exact ⟨'f', rfl, by decide⟩
  | string spells => exact spells.begins
  | emptyArray => exact ⟨'[', rfl, by decide⟩
  | array => exact ⟨'[', rfl, by decide⟩
  | emptyObject => exact ⟨'{', rfl, by decide⟩
  | object => exact ⟨'{', rfl, by decide⟩
  | number spells =>
      obtain ⟨c, tail, rfl, numeric⟩ := spells.exists_head
      refine ⟨c, rfl, ?_⟩
      rcases numeric with rfl | digit
      · decide
      · intro closes
        rw [not_isDigit_of_ends closes] at digit
        cases digit

theorem readFrom_of_number (spells : SpellsNumber piece datum) (depth : Nat) (ends : Ends rest) :
    readFrom (depth + 1) (piece ++ rest) = some (datum, rest) := by
  have found := readNumber_of_spells spells ends
  obtain ⟨c, tail, rfl, numeric⟩ := spells.exists_head
  have other : ∀ special ∈ ['"', '[', '{'], c ≠ special := by
    rcases numeric with rfl | digit
    · simp
    · rintro special member rfl
      simp only [List.mem_cons, List.not_mem_nil, or_false] at member
      rcases member with rfl | rfl | rfl <;> cases digit
  rw [List.cons_append] at found ⊢
  rw [readFrom, if_neg (other _ (by simp)), if_neg (other _ (by simp)), if_neg (other _ (by simp)),
    if_pos numeric, found]

theorem readFrom_of_named (named : (piece, datum) ∈ namedData) (depth : Nat) (rest : Text) :
    readFrom (depth + 1) (piece ++ rest) = some (datum, rest) := by
  simp only [namedData, List.mem_cons, Prod.mk.injEq, List.not_mem_nil, or_false] at named
  rcases named with ⟨rfl, rfl⟩ | ⟨rfl, rfl⟩ | ⟨rfl, rfl⟩ <;> rfl

theorem readFrom_of_items {depth : Nat} {inside : Text} {items : List Datum}
    (found : readItems (readPadded (readFrom depth)) ']' (inside ++ ']' :: rest) = some (items, rest)) :
    readFrom (depth + 1) ('[' :: (inside ++ [']']) ++ rest) = some (.array items, rest) := by
  rw [List.cons_append, List.append_assoc, List.singleton_append, readFrom]
  simp [found]

theorem readFrom_of_fields {depth : Nat} {inside : Text} {fields : List (Text × Datum)}
    (found : readItems (readField (readFrom depth)) '}' (inside ++ '}' :: rest) = some (fields, rest)) :
    readFrom (depth + 1) ('{' :: (inside ++ ['}']) ++ rest) = some (.object fields, rest) := by
  rw [List.cons_append, List.append_assoc, List.singleton_append, readFrom]
  simp [found]

theorem reads_of_succ (begins : Begins piece)
    (reads : ∀ depth, piece.length ≤ depth + 1 → Reads (readFrom (depth + 1)) Ends piece datum)
    {depth : Nat} (enough : piece.length ≤ depth) : Reads (readFrom depth) Ends piece datum := by
  cases depth with
  | succ depth => exact reads depth enough
  | zero =>
      obtain ⟨c, found, _⟩ := begins
      rw [List.eq_nil_of_length_eq_zero (Nat.le_zero.mp enough)] at found
      cases found

/-- Values inside each other are shorter from one to the next, so the length of a text bounds how deep
they lie. -/
theorem readFrom_of_spells (spells : Spells piece datum) :
    ∀ depth, piece.length ≤ depth + 1 → Reads (readFrom (depth + 1)) Ends piece datum := by
  induction spells with
  | named named =>
      intro depth _ rest _
      exact readFrom_of_named named depth rest
  | number spells =>
      intro depth _ rest ends
      exact readFrom_of_number spells depth ends
  | string spells =>
      intro depth _ rest _
      have found := readString_of_spells spells rest
      obtain ⟨_⟩ := spells
      rw [List.cons_append] at found ⊢
      rw [readFrom, if_pos rfl, found]
      rfl
  | emptyArray white =>
      intro depth _ rest _
      exact readFrom_of_items (readItems_nil white (by decide) rest)
  | emptyObject white =>
      intro depth _ rest _
      exact readFrom_of_fields (readItems_nil white (by decide) rest)
  | @array pieces items inhabited same spells ih =>
      intro depth enough rest _
      have reads : List.Forall₂ (ReadsPadded (readPadded (readFrom depth))) (pieces.map Padded.whole)
          items := by
        rw [List.forall₂_map_left_iff, List.forall₂_iff_zip]
        refine ⟨same, fun {piece item} member => ?_⟩
        have begins := (spells piece item member).begins
        have shorter : piece.whole.length ≤ (List.intercalate [','] (pieces.map Padded.whole)).length :=
          length_le_intercalate_of_mem (List.mem_map_of_mem (List.of_mem_zip member).1)
        refine readsPadded begins (reads_of_succ begins (ih piece item member) ?_)
        simp only [Padded.whole, List.length_cons, List.length_append, List.length_nil] at enough shorter
        omega
      apply readFrom_of_items
      exact readItems_of_forall₂ reads (by simpa using inhabited) (by decide) (by decide) rest
  | @object pieces fields inhabited same named spells ih =>
      intro depth enough rest _
      have reads : List.Forall₂ (ReadsPadded (readField (readFrom depth))) (pieces.map FieldText.whole)
          fields := by
        rw [List.forall₂_map_left_iff, List.forall₂_iff_zip]
        refine ⟨same, fun {piece field} member => ?_⟩
        have begins := (spells piece field member).begins
        have shorter : piece.whole.length ≤ (List.intercalate [','] (pieces.map FieldText.whole)).length :=
          length_le_intercalate_of_mem (List.mem_map_of_mem (List.of_mem_zip member).1)
        refine readsField (named piece field member) begins
          (reads_of_succ begins (ih piece field member) ?_)
        simp only [FieldText.whole, Padded.whole, List.length_cons, List.length_append, List.length_nil]
          at enough shorter
        omega
      apply readFrom_of_fields
      exact readItems_of_forall₂ reads (by simpa using inhabited) (by decide) (by decide) rest

theorem IsSaidBy.read_eq (said : datum.IsSaidBy text) : read text = some datum := by
  obtain ⟨padded, rfl, spells⟩ := said
  have begins := spells.begins
  have reads : Reads (readFrom padded.whole.length) Ends padded.text datum := by
    apply reads_of_succ begins (readFrom_of_spells spells)
    simp only [Padded.whole, List.length_append]
    omega
  have found := (readsPadded begins reads).reads [] (by rintro _ ⟨⟩)
  rw [List.append_nil] at found
  simp [read, found]

theorem IsSaidBy.unique {other : Datum} (said : datum.IsSaidBy text) (said' : other.IsSaidBy text) :
    other = datum := by
  have same := said'.read_eq
  rw [said.read_eq] at same
  exact (Option.some.inj same).symm

end
end Datum
end Stencil
