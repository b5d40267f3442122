import Mathlib.Data.List.DropRight
import Stencil.Proofs.Settings.History

/-! Where the value of a setting comes from. Its own override comes first, then its own variable, then what
the file makes of that variable, then the default; nothing else has any influence on it. -/

namespace Stencil

namespace Text

theorem exists_margins (text : Text) :
    ∃ before after, text = before ++ text.strip ++ after ∧
      (∀ c ∈ before, isBlank c = true) ∧ ∀ c ∈ after, isBlank c = true := by
  have strip : text.strip = (text.dropWhile isBlank).rdropWhile isBlank := rfl
  refine ⟨text.takeWhile isBlank, (text.dropWhile isBlank).rtakeWhile isBlank, ?_, ?_, ?_⟩
  · rw [strip, List.append_assoc, List.rdropWhile_append_rtakeWhile,
      List.takeWhile_append_dropWhile]
  · exact fun c => List.mem_takeWhile_imp
  · exact fun c => List.mem_rtakeWhile_imp

theorem dropWhile_isBlank {text : Text} (solid : ∀ c ∈ text, isBlank c = false) :
    text.dropWhile isBlank = text := by
  rw [List.dropWhile_eq_self_iff]
  intro inhabited
  simp [solid _ (List.getElem_mem inhabited)]

theorem strip_of_margins {before core after : Text} (blankBefore : ∀ c ∈ before, isBlank c = true)
    (blankAfter : ∀ c ∈ after, isBlank c = true) (solid : ∀ c ∈ core, isBlank c = false) :
    (before ++ core ++ after).strip = core := by
  have start : (before ++ core ++ after).dropWhile isBlank = (core ++ after).dropWhile isBlank := by
    rw [List.append_assoc, List.dropWhile_append_of_pos blankBefore]
  rw [strip, start]
  cases core with
  | nil =>
      rw [List.nil_append, List.dropWhile_eq_nil_iff.mpr blankAfter]
      rfl
  | cons c rest =>
      have first : isBlank c = false := solid c List.mem_cons_self
      have blankBehind : ∀ c ∈ after.reverse, isBlank c = true :=
        fun c member => blankAfter c (List.mem_reverse.mp member)
      have solidBackwards : ∀ d ∈ (c :: rest).reverse, isBlank d = false :=
        fun d member => solid d (List.mem_reverse.mp member)
      rw [List.cons_append, List.dropWhile_cons_of_neg (by simp [first]), ← List.cons_append, stripEnd,
        List.reverse_append, List.dropWhile_append_of_pos blankBehind,
        dropWhile_isBlank solidBackwards, List.reverse_reverse]

theorem isBlank_toLower {c : Char} (blank : isBlank c = true) : isBlank c.toLower = true := by
  have same : c.toLower = c := by
    refine dif_neg ?_
    rintro ⟨least, greatest⟩
    change 65 ≤ c.toNat at least
    change c.toNat ≤ 90 at greatest
    simp [isBlank] at blank
    omega
  rw [same, blank]

end Text

namespace Settings

/-- Between blanks stands a text that is one of some words, but for the case of its letters. No letter
outside of `A` to `Z` has a letter of these words as its small form. -/
def Spells (words : List Text) (text : Text) : Prop :=
  ∃ before core after, text = before ++ core ++ after ∧
    (∀ c ∈ before, Text.isBlank c = true) ∧ (∀ c ∈ after, Text.isBlank c = true) ∧
      core.map Char.toLower ∈ words

inductive Counts (default : Bool) (text : Text) : Bool → Prop
  | on : Spells trueWords text → Counts default text true
  | off : Spells falseWords text → Counts default text false
  | unread : ¬Spells trueWords text → ¬Spells falseWords text → Counts default text default

def IsOther (override : Value) : Prop :=
  override ≠ .absent ∧ ∀ text, override ≠ .text text

/-- Where the flag of a field comes from, given its override, its variable before the load and what the file
makes of that variable. An override that is no text counts by its truth, unless it equals the empty text. -/
inductive Decides (store : Store) (default : Bool) : Value → Option Text → Option Text → Bool → Prop
  | text {text held assigned flag} : Counts default text flag →
      Decides store default (.text text) held assigned flag
  | blank {override held assigned} : IsOther override → override.isBlank store = .ok true →
      Decides store default override held assigned default
  | value {override held assigned flag} : IsOther override → override.isBlank store = .ok false →
      override.truth store = .ok flag → Decides store default override held assigned flag
  | environment {text assigned flag} : Counts default text flag →
      Decides store default .absent (some text) assigned flag
  | file {text flag} : Counts default text flag → Decides store default .absent none (some text) flag
  | default : Decides store default .absent none none default

/-- Code of an override fails when it is compared with the empty text, or when it is asked for its truth. -/
inductive Refuses (store : Store) (override : Value) (failure : Failure) : Prop
  | comparing : override.isBlank store = .error failure → Refuses store override failure
  | judging : override.isBlank store = .ok false → override.truth store = .error failure →
      Refuses store override failure

/-- Two loads are alike in all that a field depends on: its override, without which its variable counts
too, without which the file counts too. -/
structure Alike [Libraries] (field : Field) (overrides others : Overrides)
    (file otherFile : Option SettingsFile) (world otherWorld : World) : Prop where
  store : otherWorld.store = world.store
  override : others.get field = overrides.get field
  held : overrides.get field = .absent →
    otherWorld.environment.get? field.variableName = world.environment.get? field.variableName
  assigned : overrides.get field = .absent → world.environment.get? field.variableName = none →
    assigned? otherFile otherWorld.environment field.variableName =
      assigned? file world.environment field.variableName

section

variable {store : Store} {default flag : Bool} {text : Text}

theorem spells_iff {words : List Text}
    (solid : (words.all fun word => word.all fun c => !Text.isBlank c) = true) :
    Spells words text ↔ text.strip.map Char.toLower ∈ words := by
  constructor
  · rintro ⟨before, core, after, rfl, blankBefore, blankAfter, member⟩
    have solidCore : ∀ c ∈ core, Text.isBlank c = false := by
      intro c within
      have solidWord := List.all_eq_true.mp solid _ member
      have solidSmall := List.all_eq_true.mp solidWord c.toLower (List.mem_map_of_mem within)
      by_contra blank
      rw [Text.isBlank_toLower (by simpa using blank)] at solidSmall
      contradiction
    rwa [Text.strip_of_margins blankBefore blankAfter solidCore]
  · intro member
    obtain ⟨before, after, parts, blankBefore, blankAfter⟩ := Text.exists_margins text
    exact ⟨before, text.strip, after, parts, blankBefore, blankAfter, member⟩

theorem spells_trueWords_iff : Spells trueWords text ↔ flagOfText? text = some true := by
  rw [spells_iff (by decide), flagOfText?]
  by_cases isTrue : text.strip.map Char.toLower ∈ trueWords
  · simp [isTrue]
  · simp only [List.contains_iff_mem, isTrue, if_false]
    split <;> simp

theorem not_mem_trueWords_of_mem_falseWords : ∀ word ∈ falseWords, word ∉ trueWords := by
  decide

theorem spells_falseWords_iff : Spells falseWords text ↔ flagOfText? text = some false := by
  rw [spells_iff (by decide), flagOfText?]
  by_cases isFalse : text.strip.map Char.toLower ∈ falseWords
  · simp [isFalse, not_mem_trueWords_of_mem_falseWords _ isFalse]
  · simp [isFalse]

theorem counts_iff : Counts default text flag ↔ (flagOfText? text).getD default = flag := by
  constructor
  · rintro (spelled | spelled | ⟨unspelledTrue, unspelledFalse⟩)
    · rw [spells_trueWords_iff.mp spelled]
      rfl
    · rw [spells_falseWords_iff.mp spelled]
      rfl
    · rw [spells_trueWords_iff] at unspelledTrue
      rw [spells_falseWords_iff] at unspelledFalse
      cases read : flagOfText? text with
      | none => rfl
      | some flag => cases flag <;> contradiction
  · rintro rfl
    cases read : flagOfText? text with
    | none =>
        exact .unread (by simp [spells_trueWords_iff, read]) (by simp [spells_falseWords_iff, read])
    | some flag =>
        cases flag with
        | true => exact .on (spells_trueWords_iff.mpr read)
        | false => exact .off (spells_falseWords_iff.mpr read)

theorem isOther_resolveFlag {override : Value} (other : IsOther override) (assigned : Option Text) :
    resolveFlag store override assigned default = (do
      if ← override.isBlank store then return default else override.truth store) := by
  cases override with
  | absent => exact absurd rfl other.1
  | text text => exact absurd rfl (other.2 text)
  | _ => rfl

theorem isOther_decides_iff {override : Value} (other : IsOther override) (held assigned : Option Text) :
    Decides store default override held assigned flag ↔
      (do if ← override.isBlank store then return default else override.truth store) = .ok flag := by
  constructor
  · rintro (_ | ⟨_, blank⟩ | ⟨_, solid, judged⟩ | _ | _ | _)
    · exact absurd rfl (other.2 _)
    · rw [blank]
      rfl
    · rw [solid]
      exact judged
    · exact absurd rfl other.1
    · exact absurd rfl other.1
    · exact absurd rfl other.1
  · intro given
    obtain ⟨blank, compared, given⟩ := exists_of_bind_eq_ok given
    cases blank with
    | true =>
        cases given
        exact .blank other compared
    | false => exact .value other compared given

theorem decides_iff {override : Value} {held assigned : Option Text} :
    Decides store default override held assigned flag ↔
      resolveFlag store override (held.or assigned) default = .ok flag := by
  by_cases other : IsOther override
  · rw [isOther_decides_iff other, isOther_resolveFlag other]
  · constructor
    · rintro (counted | ⟨present, _⟩ | ⟨present, _, _⟩ | counted | counted | _)
      · exact congrArg Except.ok (counts_iff.mp counted)
      · exact absurd present other
      · exact absurd present other
      · exact congrArg Except.ok (counts_iff.mp counted)
      · exact congrArg Except.ok (counts_iff.mp counted)
      · rfl
    · intro given
      cases override with
      | absent =>
          cases held with
          | some text => exact .environment (counts_iff.mpr (Except.ok.inj given))
          | none =>
              cases assigned with
              | some text => exact .file (counts_iff.mpr (Except.ok.inj given))
              | none =>
                  cases given
                  exact .default
      | text text => exact .text (counts_iff.mpr (Except.ok.inj given))
      | _ => exact absurd ⟨nofun, nofun⟩ other

theorem refuses_of_resolveFlag {override : Value} {assigned : Option Text} {failure : Failure}
    (failed : resolveFlag store override assigned default = .error failure) :
    Refuses store override failure := by
  by_cases other : IsOther override
  · rw [isOther_resolveFlag other] at failed
    rcases bind_eq_error failed with comparing | ⟨blank, compared, failed⟩
    · exact .comparing comparing
    · cases blank with
      | true => cases failed
      | false => exact .judging compared failed
  · cases override with
    | absent => cases failed
    | text text => cases failed
    | _ => exact absurd ⟨nofun, nofun⟩ other

theorem resolveFlag_of_ne_absent {override : Value} (present : override ≠ .absent)
    (assigned other : Option Text) :
    resolveFlag store override assigned default = resolveFlag store override other default := by
  cases override with
  | absent => contradiction
  | _ => rfl

theorem Refuses.isRaised {override : Value} {failure : Failure} (refuses : Refuses store override failure) :
    ∃ fault message, failure = .raised fault message := by
  have verdict (verdict : Verdict) (failed : verdict.result = .error failure) :
      ∃ fault message, failure = .raised fault message := by
    cases verdict with
    | is flag => cases failed
    | fails fault message =>
        cases failed
        exact ⟨fault, message, rfl⟩
  rcases refuses with failed | ⟨_, failed⟩
  · unfold Value.isBlank at failed
    split at failed
    · cases failed
    · split at failed
      · exact verdict _ failed
      · cases failed
    · cases failed
  · unfold Value.truth at failed
    split at failed
    all_goals try cases failed
    split at failed
    · rename_i node _
      cases node with
      | record record => exact verdict _ failed
      | _ => cases failed
    · cases failed

section

variable [Libraries] {field : Field} {overrides others : Overrides} {file otherFile : Option SettingsFile}
variable {world otherWorld : World}

theorem Alike.resolveFlag_eq (alike : Alike field overrides others file otherFile world otherWorld) :
    resolveFlag otherWorld.store (others.get field)
        ((otherWorld.environment.get? field.variableName).or
          (assigned? otherFile otherWorld.environment field.variableName)) default =
      resolveFlag world.store (overrides.get field)
        ((world.environment.get? field.variableName).or
          (assigned? file world.environment field.variableName)) default := by
  rw [alike.store, alike.override]
  by_cases noOverride : overrides.get field = .absent
  · rw [alike.held noOverride]
    cases unset : world.environment.get? field.variableName with
    | some _ => rfl
    | none => rw [alike.assigned noOverride unset]
  · exact resolveFlag_of_ne_absent noOverride _ _

theorem choose_readInto (adds : Libraries.SetsOnlyAbsent) :
    choose world.store overrides (readInto world.environment file).2 field =
      resolveFlag world.store (overrides.get field)
        ((world.environment.get? field.variableName).or
          (assigned? file world.environment field.variableName)) (Settings.default.flag field) := by
  rw [choose, get?_readInto adds]

/-- A load gives settings if its file can be read and every field is decided, and then these are its
settings: each field by its own override, then its own variable, then what the file makes of that variable,
then the default. Loads that are alike in as much of this as counts agree on the field. Where a load fails,
reading its file does, or code of an override; that fields are found invalid is never why. -/
theorem settings_by_precedence (defaults : Libraries.GivesDefaults) (keeps : Libraries.KeepsFlags)
    (adds : Libraries.SetsOnlyAbsent) (overrides : Overrides) (file : Option SettingsFile)
    (world : World) :
    (∀ settings, ((load overrides file).outcome world).1 = .ok settings ↔
      (readInto world.environment file).1 = .ok () ∧
        ∀ field, Decides world.store (Settings.default.flag field) (overrides.get field)
          (world.environment.get? field.variableName)
          (assigned? file world.environment field.variableName) (settings.flag field)) ∧
      (∀ failure, ((load overrides file).outcome world).1 = .error failure →
        (readInto world.environment file).1 = .error failure ∨
          ∃ field fault message, failure = .raised fault message ∧
            Refuses world.store (overrides.get field) failure) ∧
      ∀ field others otherFile otherWorld, Alike field overrides others file otherFile world otherWorld →
        ∀ settings otherSettings, ((load overrides file).outcome world).1 = .ok settings →
          ((load others otherFile).outcome otherWorld).1 = .ok otherSettings →
            otherSettings.flag field = settings.flag field := by
  have loaded (overrides : Overrides) (file : Option SettingsFile) (world : World) :
      ((load overrides file).outcome world).1 = (do
        (readInto world.environment file).1
        chooseAll world.store overrides (readInto world.environment file).2) := by
    obtain ⟨_, outcome⟩ := outcome_load defaults keeps overrides file world
    rw [outcome]
  have gives (overrides : Overrides) (file : Option SettingsFile) (world : World) (settings : Settings) :
      ((load overrides file).outcome world).1 = .ok settings ↔
        (readInto world.environment file).1 = .ok () ∧
          ∀ field, resolveFlag world.store (overrides.get field)
            ((world.environment.get? field.variableName).or
              (assigned? file world.environment field.variableName)) (Settings.default.flag field) =
                .ok (settings.flag field) := by
    rw [loaded]
    constructor
    · intro given
      obtain ⟨_, read, chosen⟩ := exists_of_bind_eq_ok given
      refine ⟨read, fun field => ?_⟩
      rw [← choose_readInto adds]
      exact chooseAll_eq_ok_iff.mp chosen field
    · rintro ⟨read, decided⟩
      rw [read]
      refine chooseAll_eq_ok_iff.mpr fun field => ?_
      rw [choose_readInto adds]
      exact decided field
  refine ⟨fun settings => ?_, fun failure failed => ?_, ?_⟩
  · simp only [gives, decides_iff]
  · rw [loaded] at failed
    rcases bind_eq_error failed with unread | ⟨_, _, failed⟩
    · exact Or.inl unread
    · obtain ⟨field, refused⟩ := exists_choose_of_chooseAll_eq_error failed
      have refuses := refuses_of_resolveFlag refused
      obtain ⟨fault, message, same⟩ := refuses.isRaised
      exact Or.inr ⟨field, fault, message, same, refuses⟩
  · intro field others otherFile otherWorld alike settings otherSettings first second
    have decided := ((gives overrides file world settings).mp first).2 field
    have decidedOther := ((gives others otherFile otherWorld otherSettings).mp second).2 field
    rw [alike.resolveFlag_eq, decided] at decidedOther
    exact (Except.ok.inj decidedOther).symm

end

def agreeable : World :=
  { World.empty with
    store := #[.record ⟨['R'], 1, [], none, .as ['r'], .is true, .is true, none⟩, .blueprint ⟨['R'], []⟩]
    environment := [(Field.logNonScalar.variableName, [])] }

def agreed : Overrides := [(Field.allowPrivate.name, .object 0)]

def silencing : SettingsFile :=
  ⟨"silent.env".toList,
    Field.emitWarnings.variableName ++ "=off\n".toList ++ Field.logNonScalar.variableName ++ "=off".toList⟩

theorem agreeable_misses_truth :
    IsOther (agreed.get .allowPrivate) ∧
      (agreed.get .allowPrivate).truth agreeable.store = .ok true ∧
      ∃ settings, ((load agreed none).outcome agreeable).1 = .ok settings ∧ settings.allowPrivate ≠ true := by
  refine ⟨⟨nofun, nofun⟩, rfl, ⟨true, true, false⟩, ?_, by decide⟩
  decide +kernel

/-- The first flag comes from the file, the second is the default and hides the file, and so is the third. -/
theorem agreeable_decided :
    Libraries.GivesDefaults ∧ Libraries.KeepsFlags ∧ Libraries.SetsOnlyAbsent ∧
      ∀ field, Decides agreeable.store (Settings.default.flag field) (agreed.get field)
        (agreeable.environment.get? field.variableName)
        (assigned? (some silencing) agreeable.environment field.variableName)
        ((Settings.mk false true false).flag field) := by
  have loaded : ((load agreed (some silencing)).outcome agreeable).1 = .ok ⟨false, true, false⟩ := by
    decide +kernel
  have precedence := settings_by_precedence standard_givesDefaults standard_keepsFlags
    standard_setsOnlyAbsent agreed (some silencing) agreeable
  exact ⟨standard_givesDefaults, standard_keepsFlags, standard_setsOnlyAbsent,
    ((precedence.1 _).mp loaded).2⟩

end
end Settings
end Stencil
