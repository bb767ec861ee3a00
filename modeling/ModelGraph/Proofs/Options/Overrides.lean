import ModelGraph.Proofs.Options.File
import ModelGraph.Proofs.Options.NormalForm

/-!
# Overridden options

An override that is not null decides alone about its key: what a file says under such a key, be it
valid or not, makes no difference to the options that are read (`load_overridden`). An override
with null decides nothing, and without others the file is read as it is.
-/

namespace ModelGraph.Options

open Validation

/-- Some value other than null is given for a key. -/
def Sets (overrides : Entries) (key : Scalar) : Prop :=
  ∃ value, (key, value) ∈ overrides ∧ isGiven value = true

/-- Two objects have the same under every key that the overrides do not set. -/
def AgreeElsewhere (overrides others entries : Entries) : Prop :=
  ∀ key, ¬ Sets overrides key → Entries.get? key others = Entries.get? key entries

/-- There is a file at a path, and what it says is an object with these entries. -/
def SaysObject (file : File) (path : String) (entries : Entries) : Prop :=
  ∃ bytes, bytesAt? file (some path) = some bytes ∧
    Yaml.read (.ofBytes bytes) = .ok (.object entries)

variable {path : String} {file : File} {overrides entries others : Entries} {o : Options}

/-! ## Overrides -/

/-- Overrides are proper exactly when all of their keys are texts and none is for the path. -/
theorem overrideFailure?_eq_none_iff : overrideFailure? overrides = none ↔
    (∀ entry ∈ overrides, ∃ name, entry.1 = .text name) ∧
      Entries.get? (.text pathKey) overrides = none := by
  have htext : ∀ key : Scalar, isText key = true ↔ ∃ name, key = .text name := by
    intro key
    cases key <;> simp [isText]
  have hall : (overrides.all fun entry => isText entry.1) = true ↔
      ∀ entry ∈ overrides, ∃ name, entry.1 = .text name := by
    simp only [List.all_eq_true, htext]
  rw [← hall, overrideFailure?]
  cases overrides.all fun entry => isText entry.1 with
  | false => simp
  | true => simp

/-- Overrides stay proper when some of them are left out. -/
theorem overrideFailure?_effective (h : overrideFailure? overrides = none) :
    overrideFailure? (effective overrides) = none := by
  obtain ⟨htext, hpath⟩ := overrideFailure?_eq_none_iff.1 h
  refine overrideFailure?_eq_none_iff.2 ⟨fun entry hentry => ?_, ?_⟩
  · exact htext entry (List.mem_of_mem_filter hentry)
  · rw [Entries.get?, Option.map_eq_none_iff, List.find?_eq_none] at hpath ⊢
    exact fun entry hentry => hpath entry (List.mem_of_mem_filter hentry)

theorem effective_effective : effective (effective overrides) = effective overrides := by
  simp [effective]

theorem sets_iff {key : Scalar} :
    Sets overrides key ↔ key ∈ (effective overrides).map Prod.fst := by
  simp [Sets, effective]

/-- What overrides nothing can be left out. -/
theorem load_effective (h : overrideFailure? overrides = none) (path : Option String) :
    load path file (effective overrides) = load path file overrides := by
  rw [load, load, overrideFailure?_effective h, h, effective_effective]

/-- The options of a file that says an object are those of its entries with the overrides in front
of them. -/
theorem outcome_load_of_saysObject (h : overrideFailure? overrides = none)
    (hfile : SaysObject file path entries) :
    (load (some path) file overrides).outcome = ofEntries (some path) overrides entries := by
  obtain ⟨bytes, hbytes, hread⟩ := hfile
  rw [outcome_load_of_ok h hbytes hread]
  cases entries with
  | nil => rfl
  | cons entry rest => rfl

/-! ## Two objects that agree elsewhere -/

section

variable (htext : ∀ entry ∈ effective overrides, ∃ name, entry.1 = .text name)
  (hagree : AgreeElsewhere overrides others entries)

include htext hagree

/-- Once the overrides are put into them, such objects have the same under every text. -/
theorem AgreeElsewhere.get?_putAll (name : String) :
    Entries.get? (.text name) (others.putAll (effective overrides)) =
      Entries.get? (.text name) (entries.putAll (effective overrides)) := by
  rw [Entries.get?_putAll htext, Entries.get?_putAll htext]
  cases hlast : Entries.get? (.text name) (effective overrides).reverse with
  | some value => rfl
  | none =>
      have hnot : ¬ Sets overrides (.text name) := by
        intro hsets
        refine Entries.get?_ne_none ?_ hlast
        simpa using sets_iff.1 hsets
      rw [hagree _ hnot]

/-- Where all keys of the one are known, so are those of the other. -/
theorem AgreeElsewhere.knownKeys (h : knownKeys (entries.putAll (effective overrides)) = .ok ()) :
    Options.knownKeys (others.putAll (effective overrides)) = .ok () := by
  have hknown : ∀ {object : Entries}, Options.knownKeys object = .ok () ↔
      ∀ a ∈ object.map Prod.fst, ∃ key ∈ keys, a = .text key := by
    intro object
    rw [knownKeys_eq_ok_iff, List.forall_mem_map]
  rw [hknown] at h ⊢
  simp only [Entries.mem_keys_putAll htext, or_imp, forall_and, ← sets_iff] at h ⊢
  refine ⟨fun a ha => ?_, h.2⟩
  by_cases hsets : Sets overrides a
  · exact h.2 a hsets
  · -- The key is also one of the other object, and is known there.
    obtain ⟨value, hvalue⟩ := Option.ne_none_iff_exists'.1 (Entries.get?_ne_none ha)
    obtain ⟨b, hb, hsame⟩ := Entries.exists_mem_of_get? ((hagree a hsets).symm.trans hvalue)
    obtain ⟨key, hkey, rfl⟩ := h.1 b (List.mem_map_of_mem hb)
    exact ⟨key, hkey, Scalar.text_sameKey_iff.1 hsame⟩

/-- The options of the one are those of the other. -/
theorem AgreeElsewhere.readEntries
    (h : readEntries (entries.putAll (effective overrides)) = .ok o) :
    Options.readEntries (others.putAll (effective overrides)) = .ok o := by
  have hfind : ∀ name, (FieldKey.single name).find? (others.putAll (effective overrides)) =
      (FieldKey.single name).find? (entries.putAll (effective overrides)) := by
    intro name
    rw [FieldKey.find?_single, FieldKey.find?_single, hagree.get?_putAll htext]
  rw [readEntries_eq_ok_iff] at h ⊢
  simp only [Validation.optional, hfind] at h ⊢
  exact ⟨h.1, h.2.1, hagree.knownKeys htext h.2.2⟩

end

/-! ## The outcome of reading -/

/-- For a file that says an object and proper overrides, the overrides that are null can be left out
without a difference. If all are, the outcome is that of the object alone. If options are read, the
same options are read from every file whose object agrees with that object except under the keys
that the overrides set, whatever it has there. -/
theorem load_overridden (path : String) (file : File) (overrides entries : Entries)
    (h : overrideFailure? overrides = none) (hfile : SaysObject file path entries) :
    load (some path) file (overrides.filter fun entry => isGiven entry.2) =
        load (some path) file overrides ∧
      ((∀ entry ∈ overrides, isGiven entry.2 = false) →
        (load (some path) file overrides).outcome = ofValue (.object entries) (some path)) ∧
      ∀ o, (load (some path) file overrides).outcome = .ok o →
        ∀ otherPath otherFile others, SaysObject otherFile otherPath others →
          AgreeElsewhere overrides others entries →
          (load (some otherPath) otherFile overrides).outcome = .ok o := by
  have htext := (overrideFailure?_eq_none_iff.1 (overrideFailure?_effective h)).1
  refine ⟨load_effective h (some path), fun hnull => ?_, ?_⟩
  · have hnone : effective overrides = [] := List.filter_eq_nil_iff.2 (by simpa using hnull)
    rw [outcome_load_of_saysObject h hfile, ofEntries, hnone]
    rfl
  · intro o ho otherPath otherFile others hother hagree
    rw [outcome_load_of_saysObject h hfile, ofEntries, ofValue_object_eq_ok_iff] at ho
    rw [outcome_load_of_saysObject h hother, ofEntries, ofValue_object_eq_ok_iff]
    exact hagree.readEntries htext ho

/-- The bytes of `enum_path: []`, which says a path that is no text. -/
def invalidPath : List UInt8 :=
  [0x65, 0x6e, 0x75, 0x6d, 0x5f, 0x70, 0x61, 0x74, 0x68, 0x3a, 0x20, 0x5b, 0x5d]

/-- A path that cannot be read makes no difference once it is overridden. -/
theorem load_overridden_of_invalid :
    overrideFailure? [(.text "enum_path", .text "types"), (.text "helpers_path", .null)] = none ∧
      SaysObject (.content [0x7b, 0x7d]) "a.yaml" [] ∧
      SaysObject (.content invalidPath) "b.yaml" [(.text "enum_path", .list [])] ∧
      (load (some "b.yaml") (.content invalidPath)
        [(.text "enum_path", .text "types"), (.text "helpers_path", .null)]).outcome =
          .ok { default with enumPath := "types" } := by
  have hempty : SaysObject (.content [0x7b, 0x7d]) "a.yaml" [] := ⟨_, rfl, rfl⟩
  have hinvalid : SaysObject (.content invalidPath) "b.yaml"
      [(.text "enum_path", .list [])] := ⟨_, rfl, rfl⟩
  obtain ⟨-, -, hload⟩ := load_overridden "a.yaml" (.content [0x7b, 0x7d])
    [(.text "enum_path", .text "types"), (.text "helpers_path", .null)] [] rfl hempty
  refine ⟨rfl, hempty, hinvalid, hload _ rfl "b.yaml" _ _ hinvalid fun key hkey => ?_⟩
  have hsets : Sets [(.text "enum_path", .text "types"), (.text "helpers_path", .null)]
      (.text "enum_path") := ⟨.text "types", by simp, rfl⟩
  have hne : (Scalar.text "enum_path").sameKey key = false := by
    rw [Bool.eq_false_iff, Ne, Scalar.text_sameKey_iff]
    rintro rfl
    exact hkey hsets
  simp [Entries.get?, hne]

end ModelGraph.Options
