import ModelGraph.Proofs.Validation.Keys
import ModelGraph.Proofs.Validation.Violations

/-!
# Where violations are

A part of a value has a path, and it can be replaced by another (`Value.setAt`). A violation has a
path too, so one can ask which violations are under a given path. A part of a value is reported
under its path (`ReportsUnder`) when its violations, with the path in front, are a stretch of those
of the whole, and the rest is elsewhere and does not depend on the part. Parts of parts are reported
under both paths one after the other (`ReportsUnder.trans`).
-/

namespace ModelGraph

open Validation

/-! ## Values inside values -/

/-- The value with `new` in the place of its part at a path. Where a path leads nowhere, nothing
changes. -/
def Value.setAt : Value → List Segment → Value → Value
  | _, [], new => new
  | .object entries, .key name :: path, new =>
    match Entries.get? (.text name) entries with
    | some part => .object (Entries.put (.text name) (setAt part path new) entries)
    | none => .object entries
  | .list items, .index i :: path, new => .list (items.modify i fun item => setAt item path new)
  | value, _ :: _, _ => value

section SetAt

variable {value new : Value} {path : List Segment} {name : String} {entries : Entries}

theorem Value.setAt_nil : value.setAt [] new = new := by
  rw [setAt]

theorem Value.setAt_key (h : Entries.get? (.text name) entries = some value) :
    (Value.object entries).setAt (.key name :: path) new =
      .object (entries.put (.text name) (value.setAt path new)) := by
  rw [setAt, h]

theorem Value.setAt_index {items : List Value} {i : Nat} (h : items[i]? = some value) :
    (Value.list items).setAt (.index i :: path) new =
      .list (items.set i (value.setAt path new)) := by
  rw [setAt, List.modify_eq_set, h, Option.getD_some]

/-- Objects stay objects when something is set inside them. -/
theorem Value.exists_setAt_eq_object :
    ∃ others, (Value.object entries).setAt (.key name :: path) new = .object others := by
  rw [setAt]
  split <;> exact ⟨_, rfl⟩

end SetAt

namespace Validation

/-! ## Violations under a path -/

namespace Violation

/-- Whether a violation is at a path or further down. -/
def isUnder (path : List Segment) (v : Violation) : Bool :=
  path.isPrefixOf v.path

/-- The violation with a path in front of its own. -/
def behind (path : List Segment) (v : Violation) : Violation :=
  { v with path := path ++ v.path }

variable {path more : List Segment} {v : Violation}

theorem isUnder_iff : v.isUnder path = true ↔ path <+: v.path :=
  List.isPrefixOf_iff_prefix

theorem behind_append : behind (path ++ more) v = behind path (behind more v) := by
  simp [behind]

@[simp] theorem isUnder_behind : (behind path v).isUnder path = true :=
  isUnder_iff.2 (List.prefix_append path v.path)

@[simp] theorem isUnder_append_behind :
    (behind path v).isUnder (path ++ more) = v.isUnder more := by
  rw [Bool.eq_iff_iff, isUnder_iff, isUnder_iff]
  exact List.prefix_append_right_inj path

/-- What is not under a path is not further down either. -/
theorem not_isUnder_append (h : v.isUnder path = false) : v.isUnder (path ++ more) = false := by
  rw [← Bool.not_eq_true, isUnder_iff] at h ⊢
  exact fun hmore => h ((List.prefix_append path more).trans hmore)

end Violation

open Violation

/-- The violations `part` of a part are reported under a path among the violations `whole`: between
others that are elsewhere, and that are the same whatever the part is. -/
def ReportsUnder {ι : Type} (path : List Segment) (whole part : ι → List Violation) : Prop :=
  ∃ before after, (∀ v ∈ before ++ after, v.isUnder path = false) ∧
    ∀ i, whole i = before ++ (part i).map (behind path) ++ after

namespace ReportsUnder

variable {ι κ : Type} {path more : List Segment} {whole middle part : ι → List Violation}

/-- Parts of parts. -/
theorem trans (h : ReportsUnder path whole middle) (h' : ReportsUnder more middle part) :
    ReportsUnder (path ++ more) whole part := by
  obtain ⟨before, after, helse, hwhole⟩ := h
  obtain ⟨front, back, hinside, hmiddle⟩ := h'
  refine ⟨before ++ front.map (behind path), back.map (behind path) ++ after, ?_, fun i => ?_⟩
  · have houter : ∀ v ∈ before ++ after, v.isUnder (path ++ more) = false := fun v hv =>
      not_isUnder_append (helse v hv)
    have hinner : ∀ v ∈ front ++ back, (behind path v).isUnder (path ++ more) = false :=
      fun v hv => isUnder_append_behind.trans (hinside v hv)
    intro v hv
    simp only [List.mem_append, List.mem_map] at hv
    rcases hv with (hv | ⟨w, hw, rfl⟩) | (⟨w, hw, rfl⟩ | hv)
    · exact houter v (List.mem_append_left _ hv)
    · exact hinner w (List.mem_append_left _ hw)
    · exact hinner w (List.mem_append_right _ hw)
    · exact houter v (List.mem_append_right _ hv)
  · have hparts : (part i).map (behind (path ++ more)) =
        ((part i).map (behind more)).map (behind path) := by
      rw [List.map_map]
      exact List.map_congr_left fun v _ => behind_append
    rw [hwhole, hmiddle, hparts]
    simp only [List.map_append, List.append_assoc]

/-- Only some of the parts are looked at. -/
theorem comp (h : ReportsUnder path whole part) (f : κ → ι) :
    ReportsUnder path (whole ∘ f) (part ∘ f) := by
  obtain ⟨before, after, helse, hwhole⟩ := h
  exact ⟨before, after, helse, fun i => hwhole (f i)⟩

theorem congr {others parts : ι → List Violation} (h : ReportsUnder path whole part)
    (hwhole : ∀ i, others i = whole i) (hpart : ∀ i, parts i = part i) :
    ReportsUnder path others parts := by
  rw [funext hwhole, funext hpart]
  exact h

/-- What is reported under the path is what is wrong with the part. -/
theorem filter_isUnder (h : ReportsUnder path whole part) (i : ι) :
    (whole i).filter (isUnder path) = (part i).map (behind path) := by
  obtain ⟨before, after, helse, hwhole⟩ := h
  have hnone : ∀ vs ⊆ before ++ after, vs.filter (isUnder path) = [] := fun vs hvs =>
    List.filter_eq_nil_iff.2 fun v hv => by rw [helse v (hvs hv)]; exact Bool.false_ne_true
  have hall : ((part i).map (behind path)).filter (isUnder path) = (part i).map (behind path) := by
    refine List.filter_eq_self.2 fun v hv => ?_
    obtain ⟨w, -, rfl⟩ := List.mem_map.1 hv
    exact isUnder_behind
  rw [hwhole, List.filter_append, List.filter_append, hall,
    hnone before (List.subset_append_left _ _), hnone after (List.subset_append_right _ _),
    List.nil_append, List.append_nil]

/-- What a test takes of the whole is the same when it takes the same of the parts. -/
theorem filter_congr (h : ReportsUnder path whole part) (test : Violation → Bool) (i j : ι)
    (hpart : (part i).filter (test ∘ behind path) = (part j).filter (test ∘ behind path)) :
    (whole i).filter test = (whole j).filter test := by
  obtain ⟨before, after, -, hwhole⟩ := h
  rw [hwhole, hwhole]
  simp only [List.filter_append, List.filter_map, hpart]

end ReportsUnder

end Validation

end ModelGraph
