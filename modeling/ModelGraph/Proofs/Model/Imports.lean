import ModelGraph.Proofs.Action.Linking
import ModelGraph.Proofs.ImportSet.Order

/-!
# The imports of a model

A model imports what its directive asks for and then what the types of its fields imply. The list
of both is known from the declaration of the model alone (`imports_in_order`): each statement
stands once, where it first comes.
-/

namespace ModelGraph

/-! ## What a declaration asks for -/

namespace Document.Model

/-- The statements of the directive in the documentation of a model. -/
def requestedImports (source : Document.Model) : List String :=
  match Directive.extract source.documentation source.name with
  | .ok (some directive) => directive.statements
  | _ => []

/-- Some JSON field of the model is required, or else some is not. -/
def HasJson (source : Document.Model) (required : Bool) : Prop :=
  ∃ f ∈ source.fields, f.type = "Json" ∧ f.isRequired = required

instance (source : Document.Model) (required : Bool) : Decidable (source.HasJson required) :=
  inferInstanceAs (Decidable (∃ f ∈ source.fields, _))

/-- Some field of the model is a decimal number. -/
def HasDecimal (source : Document.Model) : Prop :=
  ∃ f ∈ source.fields, f.type = "Decimal"

instance (source : Document.Model) : Decidable source.HasDecimal :=
  inferInstanceAs (Decidable (∃ f ∈ source.fields, _))

/-- The types of the fields that hold values of enumerations. -/
def enumTypes (source : Document.Model) : List String :=
  (source.fields.filter fun f => f.kind = .enum).map Document.Field.type

/-- The statements that JSON and decimal fields imply. -/
def valueImports (options : Options) (source : Document.Model) : List String :=
  (if source.HasJson false then [Import.nullableJson options.helpersPath] else []) ++
    (if source.HasJson true then [Import.inputJson options.helpersPath] else []) ++
    (if source.HasDecimal then [Import.client options.clientPath] else [])

/-- The statements that the fields imply: those of JSON and decimal fields, then one for each
enumeration, in the order of the first field of its type. -/
def impliedImports (options : Options) (source : Document.Model) : List String :=
  source.valueImports options ++ source.enumTypes.eraseDups.map (Import.schema options.enumPath)

theorem mem_valueImports_iff {options : Options} {source : Document.Model} {statement : String} :
    statement ∈ source.valueImports options ↔
      (source.HasJson false ∧ statement = Import.nullableJson options.helpersPath) ∨
      (source.HasJson true ∧ statement = Import.inputJson options.helpersPath) ∨
      (source.HasDecimal ∧ statement = Import.client options.clientPath) := by
  have hmem : ∀ (p : Prop) [Decidable p] (other : String),
      statement ∈ (if p then [other] else []) ↔ p ∧ statement = other := by
    intro p _ other
    split <;> simp [*]
  rw [valueImports, List.mem_append, List.mem_append, hmem, hmem, hmem, or_assoc]

theorem mem_impliedImports_iff {options : Options} {source : Document.Model} {statement : String} :
    statement ∈ source.impliedImports options ↔
      statement ∈ source.valueImports options ∨
      ∃ f ∈ source.fields, f.kind = .enum ∧
        statement = Import.schema options.enumPath f.type := by
  simp [impliedImports, enumTypes, and_assoc, eq_comm]

end Document.Model

/-- A model whose directive repeats itself, and asks for an import that a field implies as well. -/
def Document.Model.invoice : Document.Model :=
  { Document.Model.plain "Invoice"
      [.plain "role" .enum "Role" [], .plain "kind" .enum "Kind" [],
        .plain "total" .scalar "Decimal" [], .plain "old" .enum "Kind" [],
        { Document.Field.plain "notes" .scalar "Json" [] with isRequired := false },
        .plain "lines" .scalar "Json" []] with
    documentation := some
      ("@zod.import([\"b\", \"b\", " ++
        "\"import \x7b RoleSchema \x7d from '../enums/RoleSchema'\"])") }

/-! ## What a model of a graph imports -/

/-- A field of a graph keeps the field of the document. -/
theorem Field.toField_of_build {modelName : String} {source : Document.Field} {f : Field}
    (h : (build modelName source).outcome = .ok f) : f.toField = source := by
  obtain ⟨names, -, hf⟩ := Traced.outcome_bind_eq_ok_iff.1 h
  cases hf
  rfl

/-- So do the fields of a whole list. -/
theorem Field.map_toField_of_forall₂ {modelName : String} {sources : List Document.Field}
    {fields : List Field}
    (h : List.Forall₂ (fun source f => (build modelName source).outcome = .ok f) sources fields) :
    fields.map Field.toField = sources := by
  induction h with
  | nil => rfl
  | cons hf _ ih => rw [List.map_cons, Field.toField_of_build hf, ih]

/-- The partition deals the fields out by their kind. -/
theorem Partition.ofFields_eq (fields : List Field) :
    ofFields fields =
      { scalar := fields.filter Field.isScalar
        relation := fields.filter Field.isRelation
        enum := fields.filter Field.isEnum } := by
  induction fields with
  | nil => rfl
  | cons f rest ih =>
      rw [ofFields, ih, cons]
      cases hkind : f.kind <;>
        simp [Field.isScalar, Field.isRelation, Field.isEnum, hkind]

namespace Model

open Traced

variable {options : Options} {source : Document.Model} {fields : List Field} {m : Model}

/-- A statement that is there on a computed condition is there on the condition it computes. -/
theorem statementIf_eq {condition : Bool} {p : Prop} [Decidable p] (h : condition = true ↔ p)
    (statement : String) : statementIf condition statement = if p then [statement] else [] :=
  if_congr h rfl rfl

/-- What the fields of a graph imply is known from the fields of the document. -/
theorem automaticImports_eq (h : fields.map Field.toField = source.fields) :
    automaticImports options fields =
      source.valueImports options ++ source.enumTypes.map (Import.schema options.enumPath) := by
  have hnullable :
      (fields.any fun f => f.isJson && !f.isRequired) = true ↔ source.HasJson false := by
    simp [Document.Model.HasJson, ← h, Field.isJson]
  have hrequired : (fields.any fun f => f.isJson && f.isRequired) = true ↔ source.HasJson true := by
    simp [Document.Model.HasJson, ← h, Field.isJson]
  have hdecimal : fields.any Field.isDecimal = true ↔ source.HasDecimal := by
    simp [Document.Model.HasDecimal, ← h, Field.isDecimal]
  have henums : (fields.filter Field.isEnum).map (fun f => f.type) = source.enumTypes := by
    rw [Document.Model.enumTypes, ← h, List.filter_map, List.map_map]
    rfl
  rw [automaticImports, statementIf_eq hnullable, statementIf_eq hrequired,
    statementIf_eq hdecimal, Partition.ofFields_eq, ← henums, List.map_map,
    Document.Model.valueImports]
  rfl

/-- The fields of a model are those of its declaration. -/
theorem map_toField_of_build (h : (build options source).outcome = .ok m) :
    m.fields.map Field.toField = source.fields := by
  obtain ⟨names, fields, directive, -, hfields, -, rfl⟩ := build_eq_ok_iff.1 h
  exact Field.map_toField_of_forall₂ hfields

/-- A model imports what was asked for and what its fields imply, without repetitions. -/
theorem imports_toList_of_build (h : (build options source).outcome = .ok m) :
    m.imports.toList = (source.requestedImports ++ source.impliedImports options).eraseDups := by
  have hfields := map_toField_of_build h
  obtain ⟨names, fields, directive, -, -, hdirective, rfl⟩ := build_eq_ok_iff.1 h
  have hrequested : (directive.map Directive.statements).getD [] = source.requestedImports := by
    rw [Document.Model.requestedImports, hdirective]
    cases directive <;> rfl
  -- Repeated enumerations give repeated statements, so it does not matter which are left out.
  rw [OrderedSet.toList_ofList, hrequested, automaticImports_eq hfields,
    Document.Model.impliedImports, ← OrderedSet.eraseDups_map fun _ _ => Import.schema_inj,
    ← List.append_assoc, ← List.append_assoc, OrderedSet.eraseDups_append_eraseDups]

/-- A model imports first the statements of its directive and then those that its fields imply and
that are not there yet, each once, where it first comes. Nothing else is imported, and different
enumerations have different imports. -/
theorem imports_in_order (h : (build options source).outcome = .ok m) :
    m.imports.toList.Nodup ∧
    m.imports.toList = source.requestedImports.eraseDups ++
      ((source.impliedImports options).filter fun statement =>
        statement ∉ source.requestedImports).eraseDups ∧
    (∀ statement, statement ∈ m.imports.toList ↔
      statement ∈ source.requestedImports ∨
      (source.HasJson false ∧ statement = Import.nullableJson options.helpersPath) ∨
      (source.HasJson true ∧ statement = Import.inputJson options.helpersPath) ∨
      (source.HasDecimal ∧ statement = Import.client options.clientPath) ∨
      ∃ f ∈ source.fields, f.kind = .enum ∧
        statement = Import.schema options.enumPath f.type) ∧
    ∀ left right, left ≠ right →
      Import.schema options.enumPath left ≠ Import.schema options.enumPath right := by
  rw [imports_toList_of_build h]
  refine ⟨OrderedSet.nodup_eraseDups _, ?_, fun statement => ?_, fun left right hne heq =>
    hne (Import.schema_inj heq)⟩
  · rw [List.eraseDups_append, List.removeAll]
    simp
  · rw [List.mem_eraseDups, List.mem_append, Document.Model.mem_impliedImports_iff,
      Document.Model.mem_valueImports_iff, or_assoc, or_assoc]

/-- Every statement of the directive and of the fields of an invoice is imported once. -/
theorem imports_in_order_of_invoice :
    ∃ m, (build .default .invoice).outcome = .ok m ∧
      m.imports.toList =
        ["b", "import \x7b RoleSchema \x7d from '../enums/RoleSchema'",
          "import \x7b NullableJsonValue \x7d from '../helpers'",
          "import \x7b InputJsonValue \x7d from '../helpers'",
          "import * as PrismaClient from '@prisma/client'",
          "import \x7b KindSchema \x7d from '../enums/KindSchema'"] := by
  obtain ⟨m, hm, -⟩ := exists_outcome_of_any (x := build .default .invoice) (p := fun _ => true)
    (by decide)
  obtain ⟨-, hlist, -, -⟩ := imports_in_order hm
  exact ⟨m, hm, hlist.trans (by decide)⟩

end Model

end ModelGraph
