import ModelGraph.Proofs.Document.Edit
import ModelGraph.Proofs.Document.Violations
import ModelGraph.Proofs.Validation.Location

/-!
# Violations are local

What is wrong with one record in a list says nothing about the others. Wherever a list of records
stands in a document, what is reported under it is what each of its items reports when it is read
alone, one item after the other; only a list of input types without a valid item has something to
say of itself (`document_reports`). So an item can be replaced without any change to what is
reported of the others.
-/

namespace ModelGraph.Document

open Validation

/-! ## Lists of records -/

/-- In a record of a kind, the field at the end of a path holds the list `items` of records of the
kind `inner`. -/
inductive ListAt : RecordKind → Value → List Segment → RecordKind → List Value → Prop
  | here {kind inner : RecordKind} {slot : Slot} {entries : Entries} {spelling : String}
      {items : List Value} (hslot : slot ∈ kind.slots) (hcontent : slot.content = .many inner)
      (hfound : slot.key.find? entries = some (spelling, .list items)) :
      ListAt kind (.object entries) [.key spelling] inner items
  /-- The list is inside the record that a field holds. -/
  | inside {kind outer inner : RecordKind} {slot : Slot} {entries : Entries} {spelling : String}
      {value : Value} {path : List Segment} {items : List Value} (hslot : slot ∈ kind.slots)
      (hcontent : slot.content = .one outer)
      (hfound : slot.key.find? entries = some (spelling, value))
      (hlist : ListAt outer value path inner items) :
      ListAt kind (.object entries) (.key spelling :: path) inner items
  /-- The list is inside one of the records that a field holds. -/
  | insideItem {kind outer inner : RecordKind} {slot : Slot} {entries : Entries}
      {spelling : String} {outers : List Value} {i : Nat} {item : Value} {path : List Segment}
      {items : List Value} (hslot : slot ∈ kind.slots) (hcontent : slot.content = .many outer)
      (hfound : slot.key.find? entries = some (spelling, .list outers))
      (hitem : outers[i]? = some item) (hlist : ListAt outer item path inner items) :
      ListAt kind (.object entries) (.key spelling :: .index i :: path) inner items

namespace RecordKind

/-- What is wrong with an item of a list when it is read alone as a record of the kind, with its
index in front. -/
def violationsAt (kind : RecordKind) (item : Value × Nat) : List Violation :=
  (kind.read item.1).violations.map (Violation.under (.index item.2))

/-- What is wrong with the items of a list, one after the other. -/
def itemViolations (kind : RecordKind) (items : List Value) : List Violation :=
  items.zipIdx.flatMap kind.violationsAt

/-- What is wrong with a list of records of the kind besides its items: input types, which are the
only lists of references to types, need a valid item. -/
def ownViolations (kind : RecordKind) (items : List Value) : List Violation :=
  if kind = .typeRef ∧ ∀ item ∈ items, (kind.read item).isOk = false then [⟨[], .noValidItem⟩]
  else []

theorem ownViolations_of_ne {kind : RecordKind} (h : kind ≠ .typeRef) (items : List Value) :
    kind.ownViolations items = [] :=
  if_neg fun hboth => h hboth.1

/-- Every violation besides those in items says that no item is valid. -/
theorem eq_of_mem_ownViolations {kind : RecordKind} {items : List Value} {v : Violation}
    (h : v ∈ kind.ownViolations items) : v = ⟨[], .noValidItem⟩ := by
  unfold ownViolations at h
  split at h
  · exact List.mem_singleton.1 h
  · cases h

end RecordKind

variable {kind inner : RecordKind} {slot : Slot} {entries others : Entries} {items : List Value}

/-! ## Violations in one field -/

theorem Slot.get_congr (h : slot.key.find? others = slot.key.find? entries) :
    slot.get others = slot.get entries := by
  unfold Slot.get required Validation.optional
  rw [h]

theorem Slot.get_of_found {spelling : String} {value : Value}
    (h : slot.key.find? entries = some (spelling, value)) :
    slot.get entries = (slot.read value).under (.key spelling) := by
  unfold Slot.get required Validation.optional
  split <;> rw [h]

/-- The violations in a field begin with one of its spellings. -/
theorem Slot.exists_spells_of_mem {v : Violation} (hv : v ∈ (slot.get entries).violations) :
    ∃ spelling path, Spells slot.key spelling ∧ v.path = .key spelling :: path := by
  cases hfound : slot.key.find? entries with
  | some found =>
      obtain ⟨spelling, value⟩ := found
      rw [Slot.get_of_found hfound, Checked.violations_under] at hv
      obtain ⟨w, -, rfl⟩ := List.mem_map.1 hv
      exact ⟨spelling, w.path, spells_of_find? hfound, rfl⟩
  | none =>
      unfold Slot.get required Validation.optional at hv
      split at hv
      · rw [hfound] at hv
        cases List.mem_singleton.1 hv
        exact ⟨slot.key.main, [], Or.inl rfl, rfl⟩
      · rw [hfound] at hv
        cases hv

/-- Fields without a common spelling report elsewhere. -/
theorem Slot.not_isUnder_of_apart {other : Slot} {spelling : String}
    (hspells : Spells slot.key spelling) (hapart : Apart slot.key other.key) {v : Violation}
    (hv : v ∈ (other.get entries).violations) : v.isUnder [.key spelling] = false := by
  obtain ⟨twin, path, htwin, hpath⟩ := other.exists_spells_of_mem hv
  rw [← Bool.not_eq_true, Violation.isUnder_iff, hpath, List.cons_prefix_cons]
  rintro ⟨hsame, -⟩
  exact hapart.ne_of_spells hspells htwin (Segment.key.inj hsame)

/-- Writing under a spelling of one field leaves the others as they are. -/
theorem Slot.get_put_of_apart {other : Slot} {spelling : String} (value : Value)
    (hspells : Spells slot.key spelling) (hapart : Apart slot.key other.key) :
    other.get (entries.put (.text spelling) value) = other.get entries := by
  refine Slot.get_congr (FieldKey.find?_congr (Entries.get?_put_of_ne ?_)
    (Entries.get?_put_of_ne ?_))
  · exact (hapart.ne_of_spells hspells (Or.inl rfl)).symm
  · exact (hapart.ne_of_spells hspells (Or.inr rfl)).symm

/-- What is wrong with the value of a field is reported under the key it was found under. -/
theorem reportsUnder_slot (hslot : slot ∈ kind.slots) {spelling : String} {value : Value}
    (hfound : slot.key.find? entries = some (spelling, value)) :
    ReportsUnder [.key spelling]
      (fun part => (kind.read (.object (entries.put (.text spelling) part))).violations)
      (fun part => (slot.read part).violations) := by
  have hspells := spells_of_find? hfound
  obtain ⟨front, back, hslots⟩ := List.append_of_mem hslot
  have hapart : ∀ other ∈ front ++ back, Apart slot.key other.key := by
    have hpairs := pairwise_apart kind
    rw [hslots, List.pairwise_append, List.pairwise_cons] at hpairs
    obtain ⟨-, ⟨hback, -⟩, hfront⟩ := hpairs
    intro other hother
    rcases List.mem_append.1 hother with h | h
    · exact (hfront other h slot (by simp)).symm
    · exact hback other h
  refine ⟨front.flatMap fun other => (other.get entries).violations,
    back.flatMap fun other => (other.get entries).violations, ?_, fun part => ?_⟩
  · rw [← List.flatMap_append]
    intro v hv
    obtain ⟨other, hother, hv⟩ := List.mem_flatMap.1 hv
    exact Slot.not_isUnder_of_apart hspells (hapart other hother) hv
  · have hothers : ∀ slots ⊆ front ++ back,
        (slots.flatMap fun other => (other.get (entries.put (.text spelling) part)).violations) =
          slots.flatMap fun other => (other.get entries).violations := fun slots hslots =>
      List.flatMap_congr fun other hother => by
        rw [Slot.get_put_of_apart part hspells (hapart other (hslots hother))]
    show (kind.read _).violations = _
    rw [RecordKind.violations_read, hslots, List.flatMap_append, List.flatMap_cons,
      Slot.get_of_found (find?_put_of_found hfound), Checked.violations_under,
      hothers front (List.subset_append_left _ _), hothers back (List.subset_append_right _ _),
      List.append_assoc]
    rfl

/-! ## Violations in what a field holds -/

namespace RecordKind

/-- An item reports nothing under the index of another. -/
theorem not_isUnder_of_mem_violationsAt {item : Value × Nat} {i : Nat} (h : item.2 ≠ i)
    {v : Violation} (hv : v ∈ kind.violationsAt item) : v.isUnder [.index i] = false := by
  obtain ⟨w, -, rfl⟩ := List.mem_map.1 hv
  rw [← Bool.not_eq_true, Violation.isUnder_iff, Violation.under, List.cons_prefix_cons]
  rintro ⟨hsame, -⟩
  exact h (Segment.index.inj hsame).symm

/-- What is wrong with one item of a list is reported under its index, whatever it is. -/
theorem reportsUnder_item (kind : RecordKind) {i : Nat} (hi : i < items.length) :
    ReportsUnder [.index i] (fun item => kind.itemViolations (items.set i item))
      (fun item => (kind.read item).violations) := by
  -- The items in front have smaller indexes, and the items behind have greater ones.
  refine ⟨(items.take i).zipIdx.flatMap kind.violationsAt,
    ((items.drop (i + 1)).zipIdx (i + 1)).flatMap kind.violationsAt, ?_, fun item => ?_⟩
  · rw [← List.flatMap_append]
    intro v hv
    obtain ⟨other, hother, hv⟩ := List.mem_flatMap.1 hv
    refine not_isUnder_of_mem_violationsAt ?_ hv
    rcases List.mem_append.1 hother with h | h
    · have hlt := List.snd_lt_of_mem_zipIdx h
      rw [List.length_take] at hlt
      omega
    · have hle := List.le_snd_of_mem_zipIdx h
      omega
  · have hset : (items.set i item).zipIdx =
        (items.take i).zipIdx ++ (item, i) :: (items.drop (i + 1)).zipIdx (i + 1) := by
      rw [List.set_eq_take_append_cons_drop, if_pos hi, List.zipIdx_append, List.zipIdx_cons,
        List.length_take, Nat.min_eq_left (Nat.le_of_lt hi), Nat.zero_add]
    show (items.set i item).zipIdx.flatMap kind.violationsAt = _
    rw [hset, List.flatMap_append, List.flatMap_cons, List.append_assoc]
    rfl

end RecordKind

/-- What is wrong with the value of a field is what is wrong with the records that it holds. -/
def Slot.ReportsByContent (slot : Slot) : Prop :=
  match slot.content with
  | .plain => True
  | .one inner => ∀ {entries : Entries},
      (slot.read (.object entries)).violations = (inner.read (.object entries)).violations
  | .many inner => ∀ {items : List Value},
      (slot.read (.list items)).violations =
        inner.itemViolations items ++ inner.ownViolations items

theorem violations_listOf (inner : RecordKind) (hother : inner ≠ .typeRef) :
    (listOf inner.read (.list items)).violations =
      inner.itemViolations items ++ inner.ownViolations items := by
  rw [inner.ownViolations_of_ne hother, List.append_nil]
  exact violations_items

theorem violations_inputTypes :
    (nonemptyListOf TypeRef.read (.list items)).violations =
      RecordKind.typeRef.itemViolations items ++ RecordKind.typeRef.ownViolations items := by
  have hown : (if items.any fun item => (TypeRef.read item).isOk then [] else
      [⟨[], .noValidItem⟩]) = RecordKind.typeRef.ownViolations items := by
    unfold RecordKind.ownViolations
    by_cases hany : (items.any fun item => (TypeRef.read item).isOk) = true
    · obtain ⟨item, hitem, hok⟩ := List.any_eq_true.1 hany
      rw [if_pos hany, if_neg]
      rintro ⟨-, hnone⟩
      exact absurd hok (by rw [show (TypeRef.read item).isOk = false from hnone item hitem]; simp)
    · rw [if_neg hany, if_pos]
      rw [List.any_eq_true] at hany
      exact ⟨rfl, fun item hitem => Bool.eq_false_iff.2 fun hok => hany ⟨item, hitem, hok⟩⟩
  rw [violations_nonemptyListOf, violations_items, hown]
  rfl

theorem reportsByContent_of_mem_slots (h : slot ∈ kind.slots) : slot.ReportsByContent := by
  have hall : kind.slots.Forall Slot.ReportsByContent := by
    cases kind with
    | document => exact ⟨rfl, rfl⟩
    | datamodel =>
        exact ⟨violations_listOf .model (by decide), violations_listOf .enumeration (by decide)⟩
    | model =>
        exact ⟨⟨⟩, ⟨⟩, violations_listOf .field (by decide), ⟨⟩,
          violations_listOf .uniqueIndex (by decide), Checked.violations_map some, ⟨⟩⟩
    | field => exact ⟨⟨⟩, ⟨⟩, ⟨⟩, ⟨⟩, ⟨⟩, ⟨⟩, ⟨⟩, ⟨⟩, ⟨⟩, ⟨⟩, ⟨⟩, ⟨⟩, ⟨⟩, ⟨⟩⟩
    | primaryKey => exact ⟨⟨⟩, ⟨⟩⟩
    | uniqueIndex => exact ⟨⟨⟩, ⟨⟩⟩
    | enumeration => exact ⟨⟨⟩, violations_listOf .enumValue (by decide), ⟨⟩, ⟨⟩⟩
    | enumValue => exact ⟨⟨⟩, ⟨⟩⟩
    | schema => exact rfl
    | outputTypes =>
        exact ⟨violations_listOf .outputType (by decide), violations_listOf .outputType (by decide)⟩
    | outputType => exact ⟨⟨⟩, violations_listOf .operation (by decide)⟩
    | operation => exact ⟨⟨⟩, ⟨⟩, rfl, violations_listOf .arg (by decide), ⟨⟩, ⟨⟩⟩
    | arg => exact ⟨⟨⟩, ⟨⟩, ⟨⟩, violations_inputTypes, ⟨⟩⟩
    | typeRef => exact ⟨⟨⟩, ⟨⟩, ⟨⟩, ⟨⟩⟩
  exact List.forall_iff_forall_mem.1 hall slot h

theorem violations_read_one {outer : RecordKind} (hslot : slot ∈ kind.slots)
    (hcontent : slot.content = .one outer) (entries : Entries) :
    (slot.read (.object entries)).violations = (outer.read (.object entries)).violations := by
  have hreport := reportsByContent_of_mem_slots hslot
  rw [Slot.ReportsByContent, hcontent] at hreport
  exact hreport

theorem violations_read_many (hslot : slot ∈ kind.slots) (hcontent : slot.content = .many inner)
    (items : List Value) :
    (slot.read (.list items)).violations =
      inner.itemViolations items ++ inner.ownViolations items := by
  have hreport := reportsByContent_of_mem_slots hslot
  rw [Slot.ReportsByContent, hcontent] at hreport
  exact hreport

/-! ## Violations in a list at a path -/

namespace ListAt

variable {value : Value} {path : List Segment}

/-- There is no list inside a reference to a type. -/
theorem ne_typeRef (h : ListAt kind value path inner items) : kind ≠ .typeRef := by
  have hplain : ∀ slot ∈ RecordKind.typeRef.slots, slot.content = .plain := by decide
  rintro rfl
  cases h with
  | here hslot hcontent _ =>
      rw [hplain _ hslot] at hcontent
      cases hcontent
  | inside hslot hcontent _ _ =>
      rw [hplain _ hslot] at hcontent
      cases hcontent
  | insideItem hslot hcontent _ _ _ =>
      rw [hplain _ hslot] at hcontent
      cases hcontent

/-- Where there is a list inside it, a value is an object, and it stays one when something is set
inside it. -/
theorem exists_setAt_eq_object (h : ListAt kind value path inner items) (new : Value) :
    ∃ others, value.setAt path new = .object others := by
  cases h <;> exact Value.exists_setAt_eq_object

/-- The list itself is at the path. -/
theorem setAt_self (h : ListAt kind value path inner items) :
    value.setAt path (.list items) = value := by
  induction h with
  | here hslot hcontent hfound =>
      have hget := FieldKey.get?_of_find? hfound
      rw [Value.setAt_key hget, Value.setAt_nil, Entries.put_self hget]
  | inside hslot hcontent hfound hlist ih =>
      have hget := FieldKey.get?_of_find? hfound
      rw [Value.setAt_key hget, ih, Entries.put_self hget]
  | insideItem hslot hcontent hfound hitem hlist ih =>
      have hget := FieldKey.get?_of_find? hfound
      obtain ⟨hi, rfl⟩ := List.getElem?_eq_some_iff.1 hitem
      rw [Value.setAt_key hget, Value.setAt_index hitem, ih, List.set_getElem_self hi,
        Entries.put_self hget]

/-- To replace an item is to replace the list. -/
theorem setAt_item (h : ListAt kind value path inner items) {i : Nat} (hi : i < items.length)
    (new : Value) :
    value.setAt (path ++ [.index i]) new = value.setAt path (.list (items.set i new)) := by
  have hitem : items[i]? = some items[i] := List.getElem?_eq_getElem hi
  induction h with
  | here hslot hcontent hfound =>
      have hget := FieldKey.get?_of_find? hfound
      rw [List.singleton_append, Value.setAt_key hget, Value.setAt_key hget,
        Value.setAt_index hitem, Value.setAt_nil, Value.setAt_nil]
  | inside hslot hcontent hfound hlist ih =>
      have hget := FieldKey.get?_of_find? hfound
      rw [List.cons_append, Value.setAt_key hget, Value.setAt_key hget, ih hi hitem]
  | insideItem hslot hcontent hfound houter hlist ih =>
      have hget := FieldKey.get?_of_find? hfound
      rw [List.cons_append, List.cons_append, Value.setAt_key hget, Value.setAt_key hget,
        Value.setAt_index houter, Value.setAt_index houter, ih hi hitem]

/-- What is wrong with a list is reported under its path, whatever its items are. -/
theorem reportsUnder (h : ListAt kind value path inner items) :
    ReportsUnder path (fun others => (kind.read (value.setAt path (.list others))).violations)
      (fun others => inner.itemViolations others ++ inner.ownViolations others) := by
  induction h with
  | here hslot hcontent hfound =>
      have hfield := (reportsUnder_slot hslot hfound).comp Value.list
      refine hfield.congr (fun others => ?_) fun others => ?_
      · rw [Value.setAt_key (FieldKey.get?_of_find? hfound), Value.setAt_nil]
        rfl
      · exact (violations_read_many hslot hcontent others).symm
  | @inside kind outer inner slot entries spelling value path items hslot hcontent hfound hlist
      ih =>
      have hfield := (reportsUnder_slot hslot hfound).comp fun others : List Value =>
        value.setAt path (.list others)
      refine ReportsUnder.trans (hfield.congr (fun others => ?_) fun others => ?_) ih
      · rw [Value.setAt_key (FieldKey.get?_of_find? hfound)]
        rfl
      · obtain ⟨inside, hinside⟩ := hlist.exists_setAt_eq_object (.list others)
        show _ = (slot.read (value.setAt path (.list others))).violations
        rw [hinside, violations_read_one hslot hcontent]
  | @insideItem kind outer inner slot entries spelling outers i item path items hslot hcontent
      hfound hitem hlist ih =>
      have hfield := (reportsUnder_slot hslot hfound).comp fun others : List Value =>
        Value.list (outers.set i (item.setAt path (.list others)))
      have houter := (outer.reportsUnder_item (List.getElem?_eq_some_iff.1 hitem).1).comp
        fun others : List Value => item.setAt path (.list others)
      refine ReportsUnder.trans (hfield.congr (fun others => ?_) fun others => ?_)
        (houter.trans ih)
      · rw [Value.setAt_key (FieldKey.get?_of_find? hfound), Value.setAt_index hitem]
        rfl
      · show _ = (slot.read (.list (outers.set i (item.setAt path (.list others))))).violations
        rw [violations_read_many hslot hcontent, outer.ownViolations_of_ne hlist.ne_typeRef,
          List.append_nil]
        rfl

end ListAt

/-! ## Documents -/

/-- Whether a violation is neither one in the item `i` of the list at a path, nor the one that says
that the list has no valid item. -/
def isApartFrom (path : List Segment) (i : Nat) (v : Violation) : Bool :=
  !v.isUnder (path ++ [.index i]) && v != ⟨path, .noValidItem⟩

/-- Replacing one item of a list changes nothing of what is reported besides. -/
theorem filter_isApartFrom {value : Value} {path : List Segment}
    (h : ListAt kind value path inner items) {i : Nat} (hi : i < items.length) (edited : Value) :
    (kind.read (value.setAt (path ++ [.index i]) edited)).violations.filter (isApartFrom path i) =
      (kind.read value).violations.filter (isApartFrom path i) := by
  have hown : ∀ others, ((inner.ownViolations others).filter
      (isApartFrom path i ∘ Violation.behind path)) = [] := by
    intro others
    refine List.filter_eq_nil_iff.2 fun v hv => ?_
    rw [RecordKind.eq_of_mem_ownViolations hv]
    simp [isApartFrom, Violation.behind]
  have hitem : ∀ item, ((inner.read item).violations.filter
      ((isApartFrom path i ∘ Violation.behind path) ∘ Violation.behind [.index i])) = [] := by
    intro item
    refine List.filter_eq_nil_iff.2 fun v _ => ?_
    simp [isApartFrom, ← Violation.behind_append]
  have hitems : (inner.itemViolations (items.set i edited)).filter
        (isApartFrom path i ∘ Violation.behind path) =
      (inner.itemViolations (items.set i items[i])).filter
        (isApartFrom path i ∘ Violation.behind path) :=
    (inner.reportsUnder_item hi).filter_congr _ edited items[i]
      ((hitem edited).trans (hitem items[i]).symm)
  have hwhole := h.reportsUnder.filter_congr (isApartFrom path i) (items.set i edited) items
    (by simp only [List.filter_append, hown, hitems, List.set_getElem_self])
  rw [h.setAt_item hi, hwhole, h.setAt_self]

/-- A value describes a document exactly when it has no violations, and otherwise all of them are
reported. Under a list of records, what is reported is what each item reports when it is read alone,
one item after the other, with the path of the list and the index in front; only for input types
without a valid item there is one more violation, at the list itself. Replacing an item does not
add, remove or reorder what is reported elsewhere. -/
theorem document_reports (raw : Value) :
    ((∃ d, Graph.document raw = .ok d) ↔ (Document.read raw).violations = []) ∧
    ((Document.read raw).violations ≠ [] →
      Graph.document raw = .error (.document (Document.read raw).violations) ∧
      (Failure.document (Document.read raw).violations).report = .ok
        { message := .text "Raw model description is malformed"
          code := .text "SCHEMA_INPUT_ERROR"
          context := [(.text "errors", .text ("; ".intercalate
            ((Document.read raw).violations.map (Violation.describe ""))))]
          suggestions := Report.Kind.document.suggestions.map Value.text }) ∧
    ∀ {path : List Segment} {inner : RecordKind} {items : List Value},
      ListAt .document raw path inner items →
      (Document.read raw).violations.filter (Violation.isUnder path) =
        (inner.itemViolations items ++ inner.ownViolations items).map (Violation.behind path) ∧
      ∀ i < items.length, ∀ edited,
        (Document.read (raw.setAt (path ++ [.index i]) edited)).violations.filter
            (isApartFrom path i) =
          (Document.read raw).violations.filter (isApartFrom path i) := by
  refine ⟨exists_document_iff, fun h => ⟨document_eq_error h, report_document h⟩, ?_⟩
  intro path inner items h
  refine ⟨?_, fun i hi edited => filter_isApartFrom h hi edited⟩
  have hunder := h.reportsUnder.filter_isUnder items
  rw [h.setAt_self] at hunder
  exact hunder

/-- A document with two models. -/
def twoModels (first second : Value) : Value :=
  .record [("datamodel", .record [("models", .list [first, second])])]

theorem listAt_twoModels (first second : Value) :
    ListAt .document (twoModels first second) [.key "datamodel", .key "models"] .model
      [first, second] := by
  have hdatamodel := List.get_mem RecordKind.document.slots ⟨0, by decide⟩
  have hmodels := List.get_mem RecordKind.datamodel.slots ⟨0, by decide⟩
  exact .inside hdatamodel rfl rfl (.here hmodels rfl rfl)

/-- A first model without a name, and a second one with a number for it. -/
def unnamedModels : Value :=
  twoModels (.record []) (.record [("name", .scalar (.int 3))])

/-- What is wrong with the second model is all that is left when the first is given a name. -/
theorem document_reports_of_unnamedModels :
    ListAt .document unnamedModels [.key "datamodel", .key "models"] .model
        [.record [], .record [("name", .scalar (.int 3))]] ∧
      Graph.document unnamedModels = .error (.document
        [⟨[.key "datamodel", .key "models", .index 0, .key "name"], .missing⟩,
          ⟨[.key "datamodel", .key "models", .index 1, .key "name"], .notText⟩]) ∧
      (Document.read (twoModels (.record [("name", .text "User")])
        (.record [("name", .scalar (.int 3))]))).violations.filter
          (isApartFrom [.key "datamodel", .key "models"] 0) =
        [⟨[.key "datamodel", .key "models", .index 1, .key "name"], .notText⟩] := by
  have hlist := listAt_twoModels (.record []) (.record [("name", .scalar (.int 3))])
  have hviolations : (Document.read unnamedModels).violations =
      [⟨[.key "datamodel", .key "models", .index 0, .key "name"], .missing⟩,
        ⟨[.key "datamodel", .key "models", .index 1, .key "name"], .notText⟩] := by
    decide
  obtain ⟨-, hrefused, hlocal⟩ := document_reports unnamedModels
  refine ⟨hlist, ?_, ?_⟩
  · rw [hviolations] at hrefused
    exact (hrefused (by decide)).1
  · have hrepaired := (hlocal hlist).2 0 (by decide) (.record [("name", .text "User")])
    rw [hviolations] at hrepaired
    exact hrepaired

/-- An argument none of whose input types is valid. -/
def emptyInputs : Value :=
  .record [("name", .text "where"), ("inputTypes", .list [.record []])]

/-- An operation with that argument only. -/
def emptyInputsOperation : Value :=
  .record [("name", .text "findManyUser"), ("outputType", .record [("type", .text "User")]),
    ("args", .list [emptyInputs])]

/-- A document with that operation only. -/
def emptyInputsDocument : Value :=
  .record [("datamodel", .record []),
    ("schema", .record [("outputObjectTypes", .record [("prisma", .list
      [.record [("name", .text "Query"), ("fields", .list [emptyInputsOperation])]])])])]

/-- The path of the input types in that document. -/
def emptyInputsPath : List Segment :=
  [.key "schema", .key "outputObjectTypes", .key "prisma", .index 0, .key "fields", .index 0,
    .key "args", .index 0, .key "inputTypes"]

/-- A list of one empty input type reports more than that input type does alone. -/
theorem not_only_items_reported :
    ListAt .document emptyInputsDocument emptyInputsPath .typeRef [.record []] ∧
      (Document.read emptyInputsDocument).violations.filter (Violation.isUnder emptyInputsPath) =
        [⟨emptyInputsPath ++ [.index 0, .key "type"], .missing⟩,
          ⟨emptyInputsPath, .noValidItem⟩] ∧
      (Document.read emptyInputsDocument).violations.filter (Violation.isUnder emptyInputsPath) ≠
        (RecordKind.typeRef.itemViolations [.record []]).map
          (Violation.behind emptyInputsPath) := by
  have hschema := List.get_mem RecordKind.document.slots ⟨1, by decide⟩
  have houtputs := List.get_mem RecordKind.schema.slots ⟨0, by decide⟩
  have hprisma := List.get_mem RecordKind.outputTypes.slots ⟨0, by decide⟩
  have hfields := List.get_mem RecordKind.outputType.slots ⟨1, by decide⟩
  have hargs := List.get_mem RecordKind.operation.slots ⟨3, by decide⟩
  have hinputs := List.get_mem RecordKind.arg.slots ⟨3, by decide⟩
  refine ⟨?_, by decide, by decide⟩
  exact .inside hschema rfl rfl <| .inside houtputs rfl rfl <|
    .insideItem hprisma rfl rfl rfl <| .insideItem hfields rfl rfl rfl <|
    .insideItem hargs rfl rfl rfl <| .here hinputs rfl rfl

end ModelGraph.Document
