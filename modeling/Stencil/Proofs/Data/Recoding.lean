import Stencil.Proofs.Data.Flavours
import Stencil.Proofs.Writing.Utf8

/-! Texts in data as octets. Wherever a text is a value and no name of an entry, its octets can stand in its
place: paths lead on as before, and they are shown as the text. -/

namespace Stencil

open Run Segment

namespace Value

structure EntryRecodes (parts : Value → Value → Prop) (entry other : Value × Value) : Prop where
  name : entry.1.name? = other.1.name?
  item : parts entry.2 other.2

inductive RecodesTop (left right : Store) (parts : Value → Value → Prop) : Value → Value → Prop
  | scalar {value} : (value.kind left).isScalar = true → RecodesTop left right parts value value
  | bytes {content} : RecodesTop left right parts (.text content) (.bytes (Text.encode content))
  | byteArray {content} : RecodesTop left right parts (.text content) (.byteArray (Text.encode content))
  | sequence {first second items others} : first.Lists left items → second.Lists right others →
      List.Forall₂ parts items others → RecodesTop left right parts first second
  | mapping {first second entries others} : first.Maps left entries → second.Maps right others →
      List.Forall₂ (EntryRecodes parts) entries others → RecodesTop left right parts first second

/-- The same data in two stores, but for texts that stand as their octets in the second. The data may hold
itself: what is asked is a relation with this pair in it, all of whose pairs are the same at the top. -/
def Recodes (left right : Store) (first second : Value) : Prop :=
  ∃ parts : Value → Value → Prop,
    (∀ one other, parts one other → one.RecodesTop left right parts other) ∧ parts first second

section

variable {left right : Store} {first second : Value} {parts others : Value → Value → Prop}

theorem RecodesTop.imp (top : first.RecodesTop left right parts second)
    (implies : ∀ one other, parts one other → others one other) :
    first.RecodesTop left right others second := by
  cases top with
  | scalar plain => exact .scalar plain
  | bytes => exact .bytes
  | byteArray => exact .byteArray
  | sequence lists lists' items => exact .sequence lists lists' (items.imp implies)
  | mapping maps maps' entries =>
      exact .mapping maps maps' (entries.imp fun _ _ same => ⟨same.name, implies _ _ same.item⟩)

theorem Recodes.top (recodes : first.Recodes left right second) :
    first.RecodesTop left right (Recodes left right) second := by
  obtain ⟨parts, steps, related⟩ := recodes
  exact (steps first second related).imp fun _ _ part => ⟨parts, steps, part⟩

/-- Pairs that are the same at the top, up to each other and to data already known to be the same. -/
theorem Recodes.of_steps (parts : Value → Value → Prop) (steps : ∀ one other, parts one other →
      one.RecodesTop left right (fun one other => parts one other ∨ one.Recodes left right other) other)
    (related : parts first second) : first.Recodes left right second := by
  refine ⟨fun one other => parts one other ∨ one.Recodes left right other, ?_, Or.inl related⟩
  rintro one other (part | known)
  · exact steps one other part
  · exact known.top.imp fun _ _ => Or.inr

theorem RecodesTop.recodes (top : first.RecodesTop left right (Recodes left right) second) :
    first.Recodes left right second :=
  .of_steps (RecodesTop left right (Recodes left right))
    (fun _ _ top => top.imp fun _ _ => Or.inr) top

theorem Recodes.kind (recodes : first.Recodes left right second) :
    first.kind left = second.kind right := by
  cases recodes.top with
  | scalar plain => exact kind_of_isScalar plain right
  | bytes | byteArray => rfl
  | sequence lists others => rw [lists.kind, others.kind]
  | mapping maps others => rw [maps.kind, others.kind]

theorem Recodes.kind_ne_record (recodes : first.Recodes left right second) :
    second.kind right ≠ .record := by
  intro record
  cases recodes.top with
  | scalar plain =>
      rw [kind_of_isScalar plain right, record] at plain
      cases plain
  | bytes | byteArray => cases record
  | sequence _ others =>
      rw [others.kind] at record
      cases record
  | mapping _ others =>
      rw [others.kind] at record
      cases record

theorem Recodes.lists (recodes : first.Recodes left right second)
    (sequence : second.kind right = .sequence) :
    ∃ items others, first.Lists left items ∧ second.Lists right others ∧
      List.Forall₂ (Recodes left right) items others := by
  cases recodes.top with
  | scalar plain =>
      rw [kind_of_isScalar plain right, sequence] at plain
      cases plain
  | bytes | byteArray => cases sequence
  | sequence lists others items => exact ⟨_, _, lists, others, items⟩
  | mapping _ others =>
      rw [others.kind] at sequence
      cases sequence

theorem Recodes.maps (recodes : first.Recodes left right second)
    (mapping : second.kind right = .mapping) :
    ∃ entries others, first.Maps left entries ∧ second.Maps right others ∧
      List.Forall₂ (EntryRecodes (Recodes left right)) entries others := by
  cases recodes.top with
  | scalar plain =>
      rw [kind_of_isScalar plain right, mapping] at plain
      cases plain
  | bytes | byteArray => cases mapping
  | sequence _ others =>
      rw [others.kind] at mapping
      cases mapping
  | mapping maps others entries => exact ⟨_, _, maps, others, entries⟩

theorem recodes_lockstep (left right : Store) (worlds : Throughout → World → World → Prop)
    (settings : Settings) : Lockstep left right worlds settings (Recodes left right) where
  absent := RecodesTop.recodes (.scalar rfl)
  kind := Recodes.kind
  accessor := fun related kind => absurd kind related.kind_ne_record
  length := by
    intro first second recodes sequence
    obtain ⟨items, others, lists, lists', related⟩ := recodes.lists sequence
    rw [lists.length, lists'.length, related.length_eq]
  item := by
    intro first second recodes sequence index
    obtain ⟨items, others, lists, lists', related⟩ := recodes.lists sequence
    rw [lists.item?, lists'.item?]
    exact getElem?_rel related index
  entry := by
    intro first second recodes mapping name
    obtain ⟨entries, others, maps, maps', related⟩ := recodes.maps mapping
    rw [maps.entry?, maps'.entry?]
    exact lookup_of_names (fun same => ⟨same.name, same.item⟩) related name

theorem outcome_coerce_text (content : Text) (reentry : Reentry) (world : World) :
    ((Value.text content).coerce reentry).outcome world = (.ok content, world) := by
  rfl

theorem outcome_coerce_octets {wrap : List UInt8 → Value} (octets : wrap ∈ [Value.bytes, .byteArray])
    (content : List UInt8) (reentry : Reentry) (world : World) :
    ((wrap content).coerce reentry).outcome world = (.ok (Text.decode content), world) := by
  simp only [List.mem_cons, List.not_mem_nil, or_false] at octets
  rcases octets with rfl | rfl <;> rfl

theorem Recodes.coerced (recodes : first.Recodes left right second)
    (plain : (first.kind left).isScalar = true) (reentry : Reentry) :
    ∃ result, (∀ world, (first.coerce reentry).outcome world = (result, world)) ∧
      ∀ world, (second.coerce reentry).outcome world = (result, world) := by
  cases recodes.top with
  | scalar =>
      obtain ⟨result, shown⟩ := exists_outcome_coerce plain reentry
      exact ⟨result, shown, shown⟩
  | @bytes content =>
      refine ⟨.ok content, outcome_coerce_text content reentry, fun world => ?_⟩
      rw [outcome_coerce_octets (by simp), Text.decode_encode]
  | @byteArray content =>
      refine ⟨.ok content, outcome_coerce_text content reentry, fun world => ?_⟩
      rw [outcome_coerce_octets (by simp), Text.decode_encode]
  | sequence lists =>
      rw [lists.kind] at plain
      cases plain
  | mapping maps =>
      rw [maps.kind] at plain
      cases plain

end
end Value

/-- Texts and their octets are interchangeable as values. Every expression fails on both bindings alike or
finds values that again differ only so, and a text without diagnostics is the text of both. All octets can
be shown, and those of a text as this text, with what stands behind them shown as if it stood alone. -/
theorem octets_interchangeable {left right : World} {first second : Value}
    (recodes : first.Recodes left.store right.store second) (reentry : Reentry) (settings : Settings) :
    (∀ expression,
      Corresponds (Value.Recodes left.store right.store)
          ((resolve reentry settings first expression).outcome left).1
          ((resolve reentry settings second expression).outcome right).1 ∧
        ∃ told,
          ((resolve reentry settings first expression).outcome left).2 = left.noting told ∧
          ((resolve reentry settings second expression).outcome right).2 = right.noting told) ∧
      (∀ segments text,
        ((render reentry settings segments first).outcome left).1 = .ok ⟨text, []⟩ →
          ((render reentry settings segments second).outcome right).1 = .ok ⟨text, []⟩) ∧
      ∀ wrap ∈ [Value.bytes, .byteArray], ∀ octets world,
        ∃ shown, ((wrap octets).coerce reentry).outcome world = (.ok shown, world) ∧
          ∀ text, ((wrap (Text.encode text ++ octets)).coerce reentry).outcome world =
            (.ok (text ++ shown), world) := by
  have resolved := resolve_lockstep (Value.recodes_lockstep left.store right.store _ settings)
    (toldAlike_keeping left right) recodes reentry
  refine ⟨?_, ?_, ?_⟩
  · intro expression
    obtain ⟨_, _, told, related⟩ := resolved expression left right (toldAlike_self left right)
    exact ⟨related, told⟩
  · intro segments text given
    refine render_follows ?_ (toldAlike_self left right) segments given
    intro expression
    refine renderExpression_follows (resolved expression) ?_
    rintro found beside _ _ same ⟨told, rfl, rfl⟩ plain
    obtain ⟨result, shown, shown'⟩ := same.coerced plain reentry
    exact ⟨(congrArg Kind.isScalar same.kind).symm.trans plain, result, shown _, shown' _⟩
  · intro wrap member octets world
    refine ⟨_, Value.outcome_coerce_octets member octets reentry world, fun text => ?_⟩
    rw [Value.outcome_coerce_octets member, Text.decode_encode_append]

def textData : World :=
  { World.empty with
    store := #[.mapping .plain [(.text ['a'], .object 1), (.text ['b'], .text ['0']),
        (.text ['c'], .object 0)],
      .sequence .list [.text ['é']]] }

def octetData : World :=
  { World.empty with
    store := #[.mapping .plain [(.text ['a'], .object 1), (.text ['b'], .bytes (Text.encode ['0'])),
        (.text ['c'], .object 0)],
      .sequence .list [.byteArray (Text.encode ['é'])]] }

theorem textData_recodes :
    (Value.object 0).Recodes textData.store octetData.store (.object 0) := by
  refine Value.Recodes.of_steps (fun one other => one = .object 0 ∧ other = .object 0) ?_ ⟨rfl, rfl⟩
  rintro _ _ ⟨rfl, rfl⟩
  have items : (Value.object 1).Recodes textData.store octetData.store (.object 1) :=
    Value.RecodesTop.recodes (.sequence (.stored rfl) (.stored rfl)
      (.cons (Value.RecodesTop.recodes .byteArray) .nil))
  refine .mapping (.stored rfl (by decide)) (.stored rfl (by decide)) ?_
  have index : (Value.text ['0']).Recodes textData.store octetData.store (.bytes (Text.encode ['0'])) :=
    Value.RecodesTop.recodes .bytes
  exact .cons ⟨rfl, Or.inr items⟩ (.cons ⟨rfl, Or.inr index⟩ (.cons ⟨rfl, Or.inl ⟨rfl, rfl⟩⟩ .nil))

theorem octetData_renders_alike :
    (Value.object 0).Recodes textData.store octetData.store (.object 0) ∧
      ((render (.ofDepth 1) .default
        [.placeholder [.literal ['c', '.', 'a', '.'], .placeholder [.literal ['b']]]]
        (.object 0)).outcome octetData).1 = .ok ⟨['é'], []⟩ := by
  refine ⟨textData_recodes, ?_⟩
  refine (octets_interchangeable textData_recodes (.ofDepth 1) .default).2.1 _ _ ?_
  rw [render, renderLoop_eq_renderAllWith]
  rfl

end Stencil
