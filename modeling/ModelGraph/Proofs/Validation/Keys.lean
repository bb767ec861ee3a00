import ModelGraph.Validation.Reader

/-!
# Keys of objects

What is found under a key after entries of an object were written (`Entries.get?_putAll`), renamed
or erased. A field looks for its two spellings only, so it finds the same as long as nothing changes
under these (`FieldKey.find?_congr`), and a field of a written record is read from what was written
(`required_record`, `optional_record`).
-/

namespace ModelGraph

/-! ## Keys -/

theorem Moment.same_self (m : Moment) : m.same m = true := by
  unfold same
  cases m.instant? <;> simp

namespace Scalar

/-- A text is the same key as itself and nothing else. -/
@[simp] theorem sameKey_text_iff {a : Scalar} {s : String} :
    a.sameKey (.text s) = true ↔ a = .text s := by
  cases a <;> simp [sameKey, integer?]

theorem text_sameKey_iff {a : Scalar} {s : String} :
    (text s).sameKey a = true ↔ a = .text s := by
  cases a with
  | text t => rw [sameKey, beq_iff_eq, text.injEq, eq_comm]
  | _ => simp [sameKey, integer?]

/-- A real is equal to itself, except for what is no number. -/
theorem unpacked_beq_self (u : Float.Model.UnpackedFloat) : (u.beq u || u.isNaN) = true := by
  cases u with
  | notANumber => rfl
  | infinity sign => cases sign <;> rfl
  | zero sign => rfl
  | finite sign mantissa exponent =>
      have hparts : (compare exponent exponent).then (compare mantissa mantissa) = .eq := by simp
      cases sign with
      | negative =>
          show (some (Ordering.swap _) == some Ordering.eq || false) = true
          rw [hparts]
          rfl
      | positive =>
          show (some _ == some Ordering.eq || false) = true
          rw [hparts]
          rfl

/-- Every scalar is the same key as itself. -/
@[simp] theorem sameKey_self (a : Scalar) : a.sameKey a = true := by
  cases a with
  | null => rfl
  | bool b => cases b <;> rfl
  | int n => simp [sameKey, integer?]
  | real x =>
      have hself : (x == x || x.isNaN) = true := unpacked_beq_self x.toModel.unpack
      simpa [sameKey] using hself
  | text s => simp [sameKey]
  | torn s => simp [sameKey]
  | bytes b => simp [sameKey]
  | moment m => exact m.same_self

end Scalar

/-! ## Entries -/

namespace Entries

/-- The entries with `fresh` in the place of the key `old`. -/
def rename (old fresh : String) (entries : Entries) : Entries :=
  entries.map fun entry =>
    if entry.1.sameKey (.text old) then (.text fresh, entry.2) else entry

/-- The entries without a key. -/
def erase (key : String) (entries : Entries) : Entries :=
  entries.filter fun entry => !entry.1.sameKey (.text key)

variable {entries : Entries} {key other : String} {value : Value}

@[simp] theorem get?_nil : get? (.text key) [] = none := rfl

theorem get?_cons (entry : Scalar × Value) :
    get? (.text key) (entry :: entries) =
      if entry.1.sameKey (.text key) then some entry.2 else get? (.text key) entries := by
  cases h : entry.1.sameKey (.text key) <;> simp [get?, h]

theorem rename_cons (entry : Scalar × Value) :
    rename key other (entry :: entries) =
      (if entry.1.sameKey (.text key) then (.text other, entry.2) else entry) ::
        rename key other entries := rfl

theorem erase_cons (entry : Scalar × Value) :
    erase key (entry :: entries) =
      if entry.1.sameKey (.text key) then erase key entries else entry :: erase key entries := by
  cases h : entry.1.sameKey (.text key) <;> simp [erase, h]

/-- A record has under each key the value that is listed under it. -/
theorem get?_record {fields : List (String × Value)} :
    get? (.text key) (fields.map fun field => (.text field.1, field.2)) = fields.lookup key := by
  induction fields with
  | nil => rfl
  | cons field rest ih =>
      rw [List.map_cons, get?_cons, ih, List.lookup_cons]
      by_cases h : key = field.1
      · simp [h]
      · have hkey : (key == field.1) = false := beq_false_of_ne h
        simp [hkey, Ne.symm h]

/-- What was written under a key is found there. -/
@[simp] theorem get?_put_self : get? (.text key) (put (.text key) value entries) = some value := by
  induction entries with
  | nil => simp [put, get?_cons]
  | cons entry rest ih =>
      rw [put]
      by_cases h : entry.1 = .text key
      · simp [h, get?_cons]
      · simp [h, get?_cons, ih]

/-- Writing under one key changes nothing under another. -/
theorem get?_put_of_ne (h : key ≠ other) :
    get? (.text key) (put (.text other) value entries) = get? (.text key) entries := by
  induction entries with
  | nil => simp [put, get?_cons, Ne.symm h]
  | cons entry rest ih =>
      rw [put]
      by_cases hentry : entry.1 = .text other
      · simp [hentry, get?_cons, Ne.symm h]
      · simp [hentry, get?_cons, ih]

/-- A written key is the only one that is added to the keys. -/
theorem mem_keys_put {a : Scalar} : a ∈ (put (.text key) value entries).map Prod.fst ↔
    a ∈ entries.map Prod.fst ∨ a = .text key := by
  induction entries with
  | nil => simp [put]
  | cons entry rest ih =>
      rw [put]
      by_cases h : entry.1 = .text key
      · simp [h, or_right_comm]
      · simp only [Scalar.sameKey_text_iff, h, if_false, List.map_cons, List.mem_cons, ih, or_assoc]

/-- Something is found under a key of an entry. -/
theorem get?_ne_none {a : Scalar} (h : a ∈ entries.map Prod.fst) : get? a entries ≠ none := by
  obtain ⟨entry, hentry, rfl⟩ := List.mem_map.1 h
  rw [get?, Ne, Option.map_eq_none_iff, List.find?_eq_none]
  exact fun hnone => hnone entry hentry (Scalar.sameKey_self _)

/-- What is found under a key is the value of an entry with that key. -/
theorem exists_mem_of_get? {a : Scalar} (h : get? a entries = some value) :
    ∃ b, (b, value) ∈ entries ∧ b.sameKey a = true := by
  obtain ⟨entry, hfind, rfl⟩ := Option.map_eq_some_iff.1 h
  have hsame := List.find?_some hfind
  exact ⟨entry.1, List.mem_of_find?_eq_some hfind, hsame⟩

section

variable {more : Entries} (h : ∀ entry ∈ more, ∃ name, entry.1 = .text name)

include h

/-- Once entries were put, a key has the last value put under it, or else what it had before. -/
theorem get?_putAll : get? (.text key) (putAll entries more) =
    (get? (.text key) more.reverse).or (get? (.text key) entries) := by
  induction more generalizing entries with
  | nil => rfl
  | cons entry rest ih =>
      obtain ⟨other, value⟩ := entry
      obtain ⟨⟨name, rfl⟩, hrest⟩ := List.forall_mem_cons.1 h
      have hlast : get? (.text key) ((.text name, value) :: rest).reverse =
          (get? (.text key) rest.reverse).or (get? (.text key) [(.text name, value)]) := by
        simp [get?, List.find?_append, Option.map_or]
      have hput : get? (.text key) (put (.text name) value entries) =
          (get? (.text key) [(.text name, value)]).or (get? (.text key) entries) := by
        by_cases hkey : key = name
        · simp [hkey, get?_cons]
        · simp [get?_put_of_ne hkey, get?_cons, Ne.symm hkey]
      rw [hlast, Option.or_assoc, ← hput]
      exact ih hrest

/-- The keys are those from before and those that were put. -/
theorem mem_keys_putAll {a : Scalar} : a ∈ (putAll entries more).map Prod.fst ↔
    a ∈ entries.map Prod.fst ∨ a ∈ more.map Prod.fst := by
  induction more generalizing entries with
  | nil => simp [putAll]
  | cons entry rest ih =>
      obtain ⟨other, value⟩ := entry
      obtain ⟨⟨name, rfl⟩, hrest⟩ := List.forall_mem_cons.1 h
      show a ∈ (putAll (put (.text name) value entries) rest).map Prod.fst ↔ _
      rw [ih hrest, mem_keys_put, List.map_cons, List.mem_cons, or_assoc]

end

/-- Writing what is there already changes nothing. -/
theorem put_self (h : get? (.text key) entries = some value) :
    put (.text key) value entries = entries := by
  induction entries with
  | nil => cases h
  | cons entry rest ih =>
      rw [get?_cons] at h
      rw [put]
      split at h
      · next hkey =>
          cases h
          rw [if_pos hkey]
      · next hkey => rw [if_neg hkey, ih h]

/-- Nothing is left under an erased key. -/
@[simp] theorem get?_erase_self : get? (.text key) (erase key entries) = none := by
  simp [get?, erase, List.find?_eq_none]

/-- Erasing one key changes nothing under another. -/
theorem get?_erase_of_ne (h : key ≠ other) :
    get? (.text key) (erase other entries) = get? (.text key) entries := by
  induction entries with
  | nil => rfl
  | cons entry rest ih =>
      rw [erase_cons, get?_cons]
      by_cases hentry : entry.1 = .text other
      · simp [hentry, ih, Ne.symm h]
      · simp [hentry, get?_cons, ih]

/-- Renaming a key puts its value under the new one, when nothing was there. -/
theorem get?_rename_new (h : get? (.text other) entries = none) :
    get? (.text other) (rename key other entries) = get? (.text key) entries := by
  induction entries with
  | nil => rfl
  | cons entry rest ih =>
      rw [get?_cons] at h
      rw [rename_cons, get?_cons, get?_cons]
      split at h
      · cases h
      · next hentry =>
          by_cases hkey : entry.1 = .text key
          · simp [hkey]
          · rw [if_neg (mt Scalar.sameKey_text_iff.1 hkey), if_neg hentry,
              if_neg (mt Scalar.sameKey_text_iff.1 hkey), ih h]

/-- Nothing is left under a renamed key. -/
theorem get?_rename_old (h : key ≠ other) : get? (.text key) (rename key other entries) = none := by
  induction entries with
  | nil => rfl
  | cons entry rest ih =>
      rw [rename_cons, get?_cons]
      by_cases hkey : entry.1 = .text key
      · simp [hkey, ih, Ne.symm h]
      · simp [hkey, ih]

/-- Renaming a key changes nothing under others. -/
theorem get?_rename_of_ne {third : String} (hold : third ≠ key) (hnew : third ≠ other) :
    get? (.text third) (rename key other entries) = get? (.text third) entries := by
  induction entries with
  | nil => rfl
  | cons entry rest ih =>
      rw [rename_cons, get?_cons, get?_cons]
      by_cases hkey : entry.1 = .text key
      · simp [hkey, ih, Ne.symm hnew, Ne.symm hold]
      · rw [if_neg (mt Scalar.sameKey_text_iff.1 hkey), ih]

end Entries

namespace Validation.FieldKey

variable {key : FieldKey} {entries others : Entries} {value : Value}

/-- A field with one spelling looks for it alone. -/
theorem find?_single {name : String} :
    (single name).find? entries =
      (Entries.get? (.text name) entries).map fun value => (name, value) := by
  unfold find? single
  cases Entries.get? (.text name) entries <;> rfl

/-- A field finds the same where both of its spellings are the same. -/
theorem find?_congr
    (hmain : Entries.get? (.text key.main) others = Entries.get? (.text key.main) entries)
    (hother : Entries.get? (.text key.other) others = Entries.get? (.text key.other) entries) :
    key.find? others = key.find? entries := by
  rw [find?, find?, hmain, hother]

/-- What a field finds is what stands under the spelling it was found under. -/
theorem get?_of_find? {spelling : String} (h : key.find? entries = some (spelling, value)) :
    Entries.get? (.text spelling) entries = some value := by
  unfold find? at h
  split at h
  · next hmain =>
      cases h
      exact hmain
  · obtain ⟨_, hother, heq⟩ := Option.map_eq_some_iff.1 h
    cases heq
    exact hother

/-- A written field is found under its main spelling. -/
theorem find?_record {fields : List (String × Value)} (h : fields.lookup key.main = some value) :
    key.find? (fields.map fun field => (.text field.1, field.2)) = some (key.main, value) := by
  rw [find?, Entries.get?_record, h]

end Validation.FieldKey

namespace Validation

variable {α : Type} {key : FieldKey} {read : Reader α} {fields : List (String × Value)}
  {value : Value}

/-- A written field is read. -/
theorem required_record (h : fields.lookup key.main = some value) :
    required key read (fields.map fun field => (.text field.1, field.2)) =
      (read value).under (.key key.main) := by
  rw [required, FieldKey.find?_record h]

theorem optional_record {fallback : α} (h : fields.lookup key.main = some value) :
    Validation.optional key fallback read (fields.map fun field => (.text field.1, field.2)) =
      (read value).under (.key key.main) := by
  rw [Validation.optional, FieldKey.find?_record h]

end Validation

end ModelGraph
