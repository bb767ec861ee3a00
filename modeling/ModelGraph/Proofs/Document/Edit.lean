import Mathlib.Data.List.Pairwise
import Mathlib.Logic.Relation
import ModelGraph.Proofs.Document.Layout

/-!
# Edits that say nothing new

A document is what its known fields say, however they are spelled. `Edit` has the changes of a value
that leave all of this alone, at any record inside it; `document_of_edits` says that a value that
was read is read as the same document after any number of them.
-/

namespace ModelGraph.Document

open Validation

/-- A key is one of the two spellings of a field. -/
def Spells (key : FieldKey) (spelling : String) : Prop :=
  spelling = key.main ∨ spelling = key.other

/-- Two fields have no spelling in common. -/
def Apart (left right : FieldKey) : Prop :=
  left.main ≠ right.main ∧ left.main ≠ right.other ∧
    left.other ≠ right.main ∧ left.other ≠ right.other

instance (left right : FieldKey) : Decidable (Apart left right) :=
  inferInstanceAs (Decidable (_ ∧ _))

/-- A change of a record, or of a record inside it, that no known field shows. -/
inductive Edit : RecordKind → Value → Value → Prop
  /-- An entry is written whose key belongs to no field. -/
  | add {kind : RecordKind} {entries : Entries} {key : String} (value : Value)
      (hunknown : ∀ slot ∈ kind.slots, ¬ Spells slot.key key) :
      Edit kind (.object entries) (.object (entries.put (.text key) value))
  /-- The camel-case key of a field gives way to the snake-case key, which was not there. -/
  | respell {kind : RecordKind} {entries : Entries} {slot : Slot} (hslot : slot ∈ kind.slots)
      (hmain : (Entries.get? (.text slot.key.main) entries).isSome = true)
      (hother : Entries.get? (.text slot.key.other) entries = none) :
      Edit kind (.object entries) (.object (entries.rename slot.key.main slot.key.other))
  /-- The snake-case key of a field is written next to the camel-case one. -/
  | shadow {kind : RecordKind} {entries : Entries} {slot : Slot} (value : Value)
      (hslot : slot ∈ kind.slots)
      (hmain : (Entries.get? (.text slot.key.main) entries).isSome = true)
      (htwo : slot.key.other ≠ slot.key.main) :
      Edit kind (.object entries) (.object (entries.put (.text slot.key.other) value))
  /-- The only key of a field is erased whose value is read as what its absence stands for. -/
  | drop {kind : RecordKind} {entries : Entries} {slot : Slot} {spelling : String} {value : Value}
      {fallback : slot.α} (hslot : slot ∈ kind.slots) (hspells : Spells slot.key spelling)
      (hvalue : Entries.get? (.text spelling) entries = some value)
      (honly : ∀ twin, Spells slot.key twin → twin ≠ spelling →
        Entries.get? (.text twin) entries = none)
      (hfallback : slot.fallback = some fallback) (hread : slot.read value = .ok fallback) :
      Edit kind (.object entries) (.object (entries.erase spelling))
  /-- The record that a field holds is edited. -/
  | inside {kind inner : RecordKind} {entries : Entries} {slot : Slot} {spelling : String}
      {value edited : Value} (hslot : slot ∈ kind.slots) (hcontent : slot.content = .one inner)
      (hfound : slot.key.find? entries = some (spelling, value)) (hedit : Edit inner value edited) :
      Edit kind (.object entries) (.object (entries.put (.text spelling) edited))
  /-- One of the records that a field holds is edited. -/
  | insideItem {kind inner : RecordKind} {entries : Entries} {slot : Slot} {spelling : String}
      {items : List Value} {i : Nat} {item edited : Value} (hslot : slot ∈ kind.slots)
      (hcontent : slot.content = .many inner)
      (hfound : slot.key.find? entries = some (spelling, .list items))
      (hitem : items[i]? = some item) (hedit : Edit inner item edited) :
      Edit kind (.object entries)
        (.object (entries.put (.text spelling) (.list (items.set i edited))))

variable {kind inner : RecordKind} {slot : Slot} {entries others : Entries}

/-! ## Readings of one field -/

/-- A field is read as its value, or as what its absence stands for. -/
theorem Slot.get_eq_ok_iff {a : slot.α} :
    slot.get entries = .ok a ↔
      (slot.key.find? entries = none ∧ slot.fallback = some a) ∨
        ∃ spelling value, slot.key.find? entries = some (spelling, value) ∧
          slot.read value = .ok a := by
  unfold Slot.get
  split
  · next hfallback => simp [required_eq_ok_iff, hfallback]
  · next fallback hfallback => simp [optional_eq_ok_iff, hfallback, eq_comm]

/-- A field is read the same where the same is found for it. -/
theorem Slot.kept_get_of_find?_eq (h : slot.key.find? others = slot.key.find? entries) :
    (slot.get entries).Kept (slot.get others) := by
  intro a ha
  rwa [Slot.get_eq_ok_iff, h, ← Slot.get_eq_ok_iff]

/-- A field whose value is replaced by one that is read the same is read the same. -/
theorem Slot.kept_get_of_found {spelling other : String} {value edited : Value}
    (hfound : slot.key.find? entries = some (spelling, value))
    (hedited : slot.key.find? others = some (other, edited))
    (hread : (slot.read value).Kept (slot.read edited)) :
    (slot.get entries).Kept (slot.get others) := by
  intro a ha
  rw [Slot.get_eq_ok_iff, hfound] at ha
  rw [Slot.get_eq_ok_iff, hedited]
  obtain ⟨hnone, -⟩ | ⟨_, _, hsame, ha⟩ := ha
  · cases hnone
  · cases hsame
    exact Or.inr ⟨other, edited, rfl, hread a ha⟩

theorem Apart.symm {left right : FieldKey} (h : Apart left right) : Apart right left :=
  ⟨h.1.symm, h.2.2.1.symm, h.2.1.symm, h.2.2.2.symm⟩

theorem Apart.ne_of_spells {left right : FieldKey} (h : Apart left right) {spelling twin : String}
    (hleft : Spells left spelling) (hright : Spells right twin) : spelling ≠ twin := by
  obtain ⟨hmain, hmainOther, hotherMain, hother⟩ := h
  rcases hleft with rfl | rfl <;> rcases hright with rfl | rfl
  · exact hmain
  · exact hmainOther
  · exact hotherMain
  · exact hother

/-- The fields of a kind of records have different spellings. -/
theorem pairwise_apart (kind : RecordKind) :
    kind.slots.Pairwise fun left right => Apart left.key right.key := by
  cases kind <;> decide

theorem apart_of_mem_slots {other : Slot} (hslot : slot ∈ kind.slots)
    (hother : other ∈ kind.slots) : slot = other ∨ Apart slot.key other.key := by
  by_cases hsame : slot = other
  · exact Or.inl hsame
  · have : Std.Symm fun left right : Slot => Apart left.key right.key := ⟨fun _ _ => Apart.symm⟩
    exact Or.inr ((pairwise_apart kind).forall hslot hother hsame)

/-- Where nothing changes but the keys of one field, and that field is read as before, the record
is read as before. -/
theorem kept_read_of_slot (hslot : slot ∈ kind.slots)
    (hsame : ∀ key, ¬ Spells slot.key key →
      Entries.get? (.text key) others = Entries.get? (.text key) entries)
    (hkept : (slot.get entries).Kept (slot.get others)) :
    (kind.read (.object entries)).Kept (kind.read (.object others)) := by
  refine RecordKind.kept_read (List.forall_iff_forall_mem.2 fun other hother => ?_)
  rcases apart_of_mem_slots hother hslot with rfl | hapart
  · exact hkept
  · refine Slot.kept_get_of_find?_eq (FieldKey.find?_congr (hsame _ fun h => ?_)
      (hsame _ fun h => ?_))
    · exact hapart.ne_of_spells (Or.inl rfl) h rfl
    · exact hapart.ne_of_spells (Or.inr rfl) h rfl

/-! ## Readings of what a field holds -/

section Lists

variable {α : Type} {read : Reader α} {items : List Value} {i : Nat} {item edited : Value}

/-- A list one of whose items is replaced by one that is read the same is read the same. -/
theorem kept_listOf (hitem : items[i]? = some item) (h : (read item).Kept (read edited)) :
    (listOf read (.list items)).Kept (listOf read (.list (items.set i edited))) := by
  intro as has
  obtain ⟨_, hlist, hitems⟩ := listOf_eq_ok_iff.1 has
  cases hlist
  refine listOf_eq_ok_iff.2 ⟨_, rfl, ?_⟩
  clear has
  induction hitems generalizing i with
  | nil => cases hitem
  | cons hvalue hrest ih =>
      cases i with
      | zero =>
          cases hitem
          exact .cons (h _ hvalue) hrest
      | succ i => exact .cons hvalue (ih hitem)

theorem kept_nonemptyListOf (hitem : items[i]? = some item) (h : (read item).Kept (read edited)) :
    (nonemptyListOf read (.list items)).Kept
      (nonemptyListOf read (.list (items.set i edited))) := by
  intro as has
  obtain ⟨hlist, hnonempty⟩ := nonemptyListOf_eq_ok_iff.1 has
  exact nonemptyListOf_eq_ok_iff.2 ⟨kept_listOf hitem h as hlist, hnonempty⟩

end Lists

/-- The value of a field is read the same as long as the records that it holds are. -/
def Slot.GoesByContent (slot : Slot) : Prop :=
  match slot.content with
  | .plain => True
  | .one inner => ∀ {entries others : Entries},
      (inner.read (.object entries)).Kept (inner.read (.object others)) →
      (slot.read (.object entries)).Kept (slot.read (.object others))
  | .many inner => ∀ {items : List Value} {i : Nat} {item edited : Value},
      items[i]? = some item → (inner.read item).Kept (inner.read edited) →
      (slot.read (.list items)).Kept (slot.read (.list (items.set i edited)))

theorem goesByContent_of_mem_slots (h : slot ∈ kind.slots) : slot.GoesByContent := by
  have hall : kind.slots.Forall Slot.GoesByContent := by
    cases kind with
    | document => exact ⟨fun h => h, fun h => h⟩
    | datamodel => exact ⟨kept_listOf, kept_listOf⟩
    | model =>
        exact ⟨⟨⟩, ⟨⟩, kept_listOf, ⟨⟩, kept_listOf, Checked.Kept.map some, ⟨⟩⟩
    | field => exact ⟨⟨⟩, ⟨⟩, ⟨⟩, ⟨⟩, ⟨⟩, ⟨⟩, ⟨⟩, ⟨⟩, ⟨⟩, ⟨⟩, ⟨⟩, ⟨⟩, ⟨⟩, ⟨⟩⟩
    | primaryKey => exact ⟨⟨⟩, ⟨⟩⟩
    | uniqueIndex => exact ⟨⟨⟩, ⟨⟩⟩
    | enumeration => exact ⟨⟨⟩, kept_listOf, ⟨⟩, ⟨⟩⟩
    | enumValue => exact ⟨⟨⟩, ⟨⟩⟩
    | schema => exact fun h => h
    | outputTypes => exact ⟨kept_listOf, kept_listOf⟩
    | outputType => exact ⟨⟨⟩, kept_listOf⟩
    | operation => exact ⟨⟨⟩, ⟨⟩, fun h => h, kept_listOf, ⟨⟩, ⟨⟩⟩
    | arg => exact ⟨⟨⟩, ⟨⟩, ⟨⟩, kept_nonemptyListOf, ⟨⟩⟩
    | typeRef => exact ⟨⟨⟩, ⟨⟩, ⟨⟩, ⟨⟩⟩
  exact List.forall_iff_forall_mem.1 hall slot h

/-! ## Edits -/

/-- Only objects are edited, and they stay objects. -/
theorem Edit.exists_entries {value edited : Value} (h : Edit kind value edited) :
    ∃ entries others, value = .object entries ∧ edited = .object others := by
  cases h <;> exact ⟨_, _, rfl, rfl⟩

/-- What a field finds is one of its two spellings. -/
theorem spells_of_find? {key : FieldKey} {spelling : String} {value : Value}
    (h : key.find? entries = some (spelling, value)) :
    Spells key spelling := by
  unfold FieldKey.find? at h
  split at h
  · cases h
    exact Or.inl rfl
  · obtain ⟨_, -, heq⟩ := Option.map_eq_some_iff.1 h
    cases heq
    exact Or.inr rfl

/-- A value that is found is found where it was written. -/
theorem find?_put_of_found {key : FieldKey} {spelling : String} {value edited : Value}
    (h : key.find? entries = some (spelling, value)) :
    key.find? (entries.put (.text spelling) edited) = some (spelling, edited) := by
  unfold FieldKey.find? at h ⊢
  split at h
  · cases h
    rw [Entries.get?_put_self]
  · next hmain =>
      obtain ⟨_, hother, heq⟩ := Option.map_eq_some_iff.1 h
      cases heq
      have htwo : key.main ≠ key.other := by
        intro hsame
        rw [hsame, hother] at hmain
        cases hmain
      rw [Entries.get?_put_of_ne htwo, hmain, Entries.get?_put_self]
      rfl

/-- A field finds the value under its only spelling. -/
theorem find?_of_only {key : FieldKey} {spelling : String} {value : Value}
    (hspells : Spells key spelling) (hvalue : Entries.get? (.text spelling) entries = some value)
    (honly : ∀ twin, Spells key twin → twin ≠ spelling → Entries.get? (.text twin) entries = none) :
    key.find? entries = some (spelling, value) := by
  rw [FieldKey.find?]
  by_cases hmain : spelling = key.main
  · rw [← hmain, hvalue]
  · rw [honly key.main (Or.inl rfl) (Ne.symm hmain), ← hspells.resolve_left hmain, hvalue]
    rfl

/-- A field with one of its spellings finds nothing when that is erased. -/
theorem find?_erase_of_only {key : FieldKey} {spelling : String}
    (honly : ∀ twin, Spells key twin → twin ≠ spelling → Entries.get? (.text twin) entries = none) :
    key.find? (entries.erase spelling) = none := by
  have hnone : ∀ twin, Spells key twin →
      Entries.get? (.text twin) (entries.erase spelling) = none := by
    intro twin hspells
    by_cases hsame : twin = spelling
    · rw [hsame, Entries.get?_erase_self]
    · rw [Entries.get?_erase_of_ne hsame, honly twin hspells hsame]
  rw [FieldKey.find?, hnone _ (Or.inl rfl), hnone _ (Or.inr rfl)]
  rfl

/-- A record is read the same after an edit. -/
theorem kept_of_edit {value edited : Value} (h : Edit kind value edited) :
    (kind.read value).Kept (kind.read edited) := by
  -- On the way down to the record that is edited: each field above it is read by what it holds.
  induction h with
  | add value hunknown =>
      refine RecordKind.kept_read (List.forall_iff_forall_mem.2 fun slot hslot => ?_)
      refine Slot.kept_get_of_find?_eq (FieldKey.find?_congr ?_ ?_)
      · exact Entries.get?_put_of_ne fun h => hunknown slot hslot (Or.inl h.symm)
      · exact Entries.get?_put_of_ne fun h => hunknown slot hslot (Or.inr h.symm)
  | @respell kind entries slot hslot hmain hother =>
      obtain ⟨value, hvalue⟩ := Option.isSome_iff_exists.1 hmain
      have htwo : slot.key.main ≠ slot.key.other := by
        intro hsame
        rw [hsame, hother] at hvalue
        cases hvalue
      have hfound : slot.key.find? entries = some (slot.key.main, value) := by
        rw [FieldKey.find?, hvalue]
      have hrespelled : slot.key.find? (entries.rename slot.key.main slot.key.other) =
          some (slot.key.other, value) := by
        rw [FieldKey.find?, Entries.get?_rename_old htwo, Entries.get?_rename_new hother, hvalue]
        rfl
      refine kept_read_of_slot hslot (fun key hkey =>
        Entries.get?_rename_of_ne (fun h => hkey (Or.inl h)) fun h => hkey (Or.inr h)) ?_
      exact Slot.kept_get_of_found hfound hrespelled fun _ ha => ha
  | shadow value hslot hmain htwo =>
      obtain ⟨old, hold⟩ := Option.isSome_iff_exists.1 hmain
      refine kept_read_of_slot hslot (fun key hkey =>
        Entries.get?_put_of_ne fun h => hkey (Or.inr h)) ?_
      refine Slot.kept_get_of_find?_eq ?_
      rw [FieldKey.find?, FieldKey.find?, Entries.get?_put_of_ne htwo.symm, hold]
  | drop hslot hspells hvalue honly hfallback hread =>
      refine kept_read_of_slot hslot (fun key hkey =>
        Entries.get?_erase_of_ne fun h => hkey (h ▸ hspells)) ?_
      intro a ha
      rw [Slot.get_eq_ok_iff, find?_of_only hspells hvalue honly] at ha
      obtain ⟨hnone, -⟩ | ⟨_, _, hfound, ha⟩ := ha
      · cases hnone
      · -- The value says what its absence says.
        cases hfound
        cases hread.symm.trans ha
        exact Slot.get_eq_ok_iff.2 (Or.inl ⟨find?_erase_of_only honly, hfallback⟩)
  | inside hslot hcontent hfound hedit ih =>
      obtain ⟨inner, edited, rfl, rfl⟩ := hedit.exists_entries
      refine kept_read_of_slot hslot (fun key hkey =>
        Entries.get?_put_of_ne fun h => hkey (h ▸ spells_of_find? hfound)) ?_
      refine Slot.kept_get_of_found hfound (find?_put_of_found hfound) ?_
      have hgoes := goesByContent_of_mem_slots hslot
      rw [Slot.GoesByContent, hcontent] at hgoes
      exact hgoes ih
  | insideItem hslot hcontent hfound hitem hedit ih =>
      refine kept_read_of_slot hslot (fun key hkey =>
        Entries.get?_put_of_ne fun h => hkey (h ▸ spells_of_find? hfound)) ?_
      refine Slot.kept_get_of_found hfound (find?_put_of_found hfound) ?_
      have hgoes := goesByContent_of_mem_slots hslot
      rw [Slot.GoesByContent, hcontent] at hgoes
      exact hgoes hitem ih

/-! ## Documents -/

/-- A value that describes a document describes the same one after any number of edits. -/
theorem document_of_edits {raw edited : Value} {d : Document}
    (hedits : Relation.ReflTransGen (Edit .document) raw edited)
    (h : Graph.document raw = .ok d) : Graph.document edited = .ok d := by
  induction hedits with
  | refl => exact h
  | tail _ hedit ih =>
      exact Graph.document_eq_ok_iff.2 (kept_of_edit hedit d (Graph.document_eq_ok_iff.1 ih))

/-- A model with one field, which has a flag under a key. -/
def flaggedModel (key : String) : Entries :=
  [(.text "name", .text "User"),
   (.text "fields", .list [.record
     [("name", .text "id"), ("kind", .text "scalar"), ("type", .text "Int"),
      (key, .text "yes")]])]

/-- A document with that model, and with more entries at its root. -/
def flaggedDocument (key : String) (more : Entries) : Entries :=
  [(.text "datamodel", .record [("models", .list [.object (flaggedModel key)])]),
   (.text "schema", .record [])] ++ more

/-- The key of a flag deep inside is respelled, and then the schema is given once more, malformed,
under its other key. -/
theorem document_of_edits_of_flagged :
    ∃ d, Graph.document (.object (flaggedDocument "isId" [])) = .ok d ∧
      Graph.document
        (.object (flaggedDocument "is_id" [(.text "prisma_schema", .bool true)])) = .ok d := by
  obtain ⟨d, hd⟩ := Checked.isOk_iff.1
    (show (Document.read (.object (flaggedDocument "isId" []))).isOk = true by decide)
  have hread := Graph.document_eq_ok_iff.2 hd
  -- The fields on the way down: datamodel, models, fields, and the flag itself.
  have hdatamodel := List.get_mem RecordKind.document.slots ⟨0, by decide⟩
  have hmodels := List.get_mem RecordKind.datamodel.slots ⟨0, by decide⟩
  have hfields := List.get_mem RecordKind.model.slots ⟨2, by decide⟩
  have hflag := List.get_mem RecordKind.field.slots ⟨6, by decide⟩
  have hmodel : Edit .model (.object (flaggedModel "isId")) (.object (flaggedModel "is_id")) := by
    have hfound : Key.fields.find? (flaggedModel "isId") = some ("fields", .list [_]) := rfl
    exact Edit.insideItem hfields rfl hfound List.getElem?_cons_zero (Edit.respell hflag rfl rfl)
  have hrespelled : Edit .document (.object (flaggedDocument "isId" []))
      (.object (flaggedDocument "is_id" [])) := by
    have hroot : (FieldKey.single "datamodel").find? (flaggedDocument "isId" []) =
        some ("datamodel", .object [_]) := rfl
    have hfound : (FieldKey.single "models").find?
        [(.text "models", .list [.object (flaggedModel "isId")])] =
          some ("models", .list [_]) := rfl
    exact Edit.inside hdatamodel rfl hroot
      (Edit.insideItem hmodels rfl hfound List.getElem?_cons_zero hmodel)
  have hschema := List.get_mem RecordKind.document.slots ⟨1, by decide⟩
  have hshadowed : Edit .document (.object (flaggedDocument "is_id" []))
      (.object (flaggedDocument "is_id" [(.text "prisma_schema", .bool true)])) :=
    Edit.shadow (.bool true) hschema rfl (by decide)
  exact ⟨d, hread, document_of_edits (.tail (.single hrespelled) hshadowed) hread⟩

end ModelGraph.Document
