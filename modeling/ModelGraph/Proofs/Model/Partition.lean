import Mathlib.Data.List.Nodup
import ModelGraph.Proofs.Model.Imports

/-!
# The fields of a model by kind

The fields of a model are dealt out by their kind. A model can have equal fields, so what is dealt
out are places and not fields: `DealtOut` says that every place of the list goes to exactly one of
the three parts, and that merging the parts by place gives the list back. Read
`fields_dealt_out_by_kind` for this and for what is found under a name.
-/

namespace ModelGraph

namespace Partition

/-- The fields of a kind. -/
def part (p : Partition) : Document.FieldKind → List Field
  | .scalar => p.scalar
  | .object => p.relation
  | .enum => p.enum

/-- The fields of a kind in a list, each with its place there. -/
def placed (kind : Document.FieldKind) (fields : List Field) : List (Field × Nat) :=
  fields.zipIdx.filter fun f => f.1.kind = kind

/-- Whether a field stands before another one, or at the same place. -/
def before (left right : Field × Nat) : Bool :=
  left.2 ≤ right.2

/-- Two lists of placed fields as one, in the order of the places. -/
def merge (left right : List (Field × Nat)) : List (Field × Nat) :=
  left.merge right before

/-- The parts hold the fields of a list by their kind. -/
structure DealtOut (fields : List Field) (p : Partition) : Prop where
  /-- Each part has the fields at the places of its kind. -/
  part_eq : ∀ kind, p.part kind = (placed kind fields).map Prod.fst
  /-- They stand there in the order of the list. -/
  in_order : ∀ kind, (placed kind fields).Sublist fields.zipIdx
  /-- Every place goes to one part only, that of its kind. -/
  one_part : ∀ i f, fields[i]? = some f → ∀ kind, (f, i) ∈ placed kind fields ↔ kind = f.kind
  lengths : p.scalar.length + p.relation.length + p.enum.length = fields.length
  /-- Merged by place, the parts give the list back. -/
  merged : (merge (placed .scalar fields)
    (merge (placed .object fields) (placed .enum fields))).map Prod.fst = fields

/-! ## Places -/

/-- The places of a list increase. -/
theorem pairwise_zipIdx (fields : List Field) (start : Nat) :
    (fields.zipIdx start).Pairwise fun left right => left.2 < right.2 := by
  induction fields generalizing start with
  | nil => exact .nil
  | cons f rest ih =>
      rw [List.zipIdx_cons, List.pairwise_cons]
      exact ⟨fun right hright => List.le_snd_of_mem_zipIdx hright, ih (start + 1)⟩

/-- What is taken out of a list by places, and what is left of it, merge to the list. -/
theorem merge_filter_not {all : List (Field × Nat)}
    (hall : all.Pairwise fun left right => left.2 < right.2) (p : Field × Nat → Bool) :
    merge (all.filter p) (all.filter fun f => !p f) = all := by
  have hsorted : all.Pairwise fun left right => before left right = true := by
    refine hall.imp ?_
    intro left right hlt
    simp only [before, decide_eq_true_eq]
    omega
  have hmerged : (merge (all.filter p) (all.filter fun f => !p f)).Pairwise
      fun left right => before left right = true := by
    refine List.pairwise_merge ?_ ?_ _ _ (hsorted.filter _) (hsorted.filter _)
    · intro a b c hab hbc
      simp only [before, decide_eq_true_eq] at hab hbc ⊢
      omega
    · intro a b
      simp only [before, Bool.or_eq_true, decide_eq_true_eq]
      omega
  have hperm : (merge (all.filter p) (all.filter fun f => !p f)).Perm all :=
    (List.merge_perm_append before).trans (List.filter_append_perm p all)
  have hdistinct : (all.map Prod.snd).Nodup :=
    List.pairwise_map.2 (hall.imp fun hlt => Nat.ne_of_lt hlt)
  refine List.Perm.eq_of_pairwise ?_ hmerged hsorted hperm
  intro a b ha hb hab hba
  simp only [before, decide_eq_true_eq] at hab hba
  exact List.inj_on_of_nodup_map hdistinct (hperm.mem_iff.1 ha) hb (by omega)

/-- Each place is that of one kind, so the places of all kinds merge to the places of the list. -/
theorem merge_placed (fields : List Field) :
    merge (placed .scalar fields) (merge (placed .object fields) (placed .enum fields)) =
      fields.zipIdx := by
  have hplaces := pairwise_zipIdx fields 0
  let others := fields.zipIdx.filter fun f => !decide (f.1.kind = .scalar)
  have hobject : placed .object fields = others.filter fun f => f.1.kind = .object := by
    rw [List.filter_filter]
    refine List.filter_congr fun f _ => ?_
    cases f.1.kind <;> rfl
  have henum : placed .enum fields = others.filter fun f => !decide (f.1.kind = .object) := by
    rw [List.filter_filter]
    refine List.filter_congr fun f _ => ?_
    cases f.1.kind <;> rfl
  rw [hobject, henum, merge_filter_not (hplaces.filter _)]
  exact merge_filter_not hplaces _

/-! ## Dealing out -/

/-- Each part has the fields of its kind. -/
theorem part_ofFields (fields : List Field) (kind : Document.FieldKind) :
    (ofFields fields).part kind = fields.filter fun f => f.kind = kind := by
  rw [ofFields_eq]
  cases kind <;> rfl

/-- A field is in the part of its kind, and in no other one. -/
theorem mem_part_ofFields_iff {fields : List Field} {f : Field} (hf : f ∈ fields)
    (kind : Document.FieldKind) : f ∈ (ofFields fields).part kind ↔ kind = f.kind := by
  simp [part_ofFields, hf, eq_comm]

/-- One field more makes one part longer by one. -/
theorem length_ofFields (fields : List Field) :
    (ofFields fields).scalar.length + (ofFields fields).relation.length +
      (ofFields fields).enum.length = fields.length := by
  induction fields with
  | nil => rfl
  | cons f rest ih =>
      rw [ofFields, cons, List.length_cons]
      cases f.kind <;> simp only [List.length_cons] <;> omega

/-- The one pass over a list deals it out. -/
theorem dealtOut_ofFields (fields : List Field) : DealtOut fields (ofFields fields) where
  part_eq kind := by
    have hmap := List.filter_map (f := Prod.fst) (p := fun f : Field => decide (f.kind = kind))
      (l := fields.zipIdx)
    rw [List.zipIdx_map_fst] at hmap
    rw [part_ofFields, hmap]
    rfl
  in_order kind := List.filter_sublist
  one_part i f hat kind := by
    simp [placed, List.mk_mem_zipIdx_iff_getElem?, hat, eq_comm]
  lengths := length_ofFields fields
  merged := by rw [merge_placed, List.zipIdx_map_fst]

end Partition

namespace Model

open Traced ModelGraph.Partition

variable {options : Options} {source : Document.Model} {m : Model}

/-- The parts of a model are those of its fields. -/
theorem byKind_of_build (h : (build options source).outcome = .ok m) :
    m.byKind = Partition.ofFields m.fields := by
  obtain ⟨names, fields, directive, -, -, -, rfl⟩ := build_eq_ok_iff.1 h
  rfl

/-- The field that is found under a name is the first one of that name. -/
theorem field?_eq_some_iff {name : String} {f : Field} : m.field? name = some f ↔
    ∃ i : Nat, m.fields[i]? = some f ∧ f.name = name ∧
      ∀ j < i, ∀ other : Field, m.fields[j]? = some other → other.name ≠ name := by
  rw [field?, List.find?_eq_some_iff_getElem]
  constructor
  · intro h
    obtain ⟨hname, i, hi, hat, hfirst⟩ := h
    refine ⟨i, List.getElem?_eq_some_iff.2 ⟨hi, hat⟩, by simpa using hname, ?_⟩
    intro j hj other hother
    obtain ⟨hlt, rfl⟩ := List.getElem?_eq_some_iff.1 hother
    simpa using hfirst j hj
  · intro h
    obtain ⟨i, hat, hname, hfirst⟩ := h
    obtain ⟨hi, hget⟩ := List.getElem?_eq_some_iff.1 hat
    refine ⟨by simpa using hname, i, hi, hget, ?_⟩
    intro j hj
    simpa using hfirst j hj _ (List.getElem?_eq_getElem (Nat.lt_trans hj hi))

/-- The fields of a model are those of its declaration, dealt out by kind. The model has relations
exactly when one of its fields is of that kind. Under a name the first field of that name is found,
and it is in the part of its kind only. -/
theorem fields_dealt_out_by_kind (h : (build options source).outcome = .ok m) :
    m.fields.map Field.toField = source.fields ∧
    DealtOut m.fields m.byKind ∧
    (m.hasRelationFields = true ↔ ∃ f ∈ m.fields, f.kind = .object) ∧
    ∀ name, (m.field? name = none ↔ ∀ f ∈ m.fields, f.name ≠ name) ∧
      ∀ f, (m.field? name = some f ↔ ∃ i : Nat, m.fields[i]? = some f ∧ f.name = name ∧
          ∀ j < i, ∀ other : Field, m.fields[j]? = some other → other.name ≠ name) ∧
        (m.field? name = some f → ∀ kind, f ∈ m.byKind.part kind ↔ kind = f.kind) := by
  have hparts := byKind_of_build h
  refine ⟨map_toField_of_build h, hparts ▸ dealtOut_ofFields m.fields, ?_, ?_⟩
  · have hrelation : m.byKind.relation = m.fields.filter fun f => f.kind = .object := by
      rw [hparts]
      exact part_ofFields m.fields .object
    simp [hasRelationFields, hrelation]
  · intro name
    refine ⟨by simp [field?], ?_⟩
    intro f
    refine ⟨field?_eq_some_iff, ?_⟩
    intro hfound kind
    rw [hparts]
    exact mem_part_ofFields_iff (List.mem_of_find?_eq_some hfound) kind

/-- A field that is declared twice has two places in the part of its kind. -/
theorem fields_dealt_out_of_repeated_id :
    ∃ m f, (build .default (.plain "User" [.plain "id" .scalar "Int" [],
        .plain "posts" .object "Post" [], .plain "id" .scalar "Int" [],
        .plain "role" .enum "Role" []])).outcome = .ok m ∧
      DealtOut m.fields m.byKind ∧ (placed .scalar m.fields).map Prod.snd = [0, 2] ∧
      m.hasRelationFields = true ∧ m.field? "id" = some f ∧
      ∀ kind, f ∈ m.byKind.part kind ↔ kind = .scalar := by
  obtain ⟨m, hm, hcheck⟩ := exists_outcome_of_any
    (x := build .default (.plain "User" [.plain "id" .scalar "Int" [],
      .plain "posts" .object "Post" [], .plain "id" .scalar "Int" [],
      .plain "role" .enum "Role" []]))
    (p := fun m => decide ((placed .scalar m.fields).map Prod.snd = [0, 2] ∧
      (∃ f ∈ m.fields, f.kind = .object) ∧ (m.field? "id").any Field.isScalar = true))
    (by decide)
  obtain ⟨hplaces, hobject, hid⟩ := of_decide_eq_true hcheck
  obtain ⟨f, hf, hscalar⟩ := (Option.any_eq_true Field.isScalar _).1 hid
  obtain ⟨-, hdealt, hrelation, hname⟩ := fields_dealt_out_by_kind hm
  have hkind : f.kind = .scalar := by simpa [Field.isScalar] using hscalar
  exact ⟨m, f, hm, hdealt, hplaces, hrelation.2 hobject, hf, hkind ▸ ((hname "id").2 f).2 hf⟩

end Model

end ModelGraph
