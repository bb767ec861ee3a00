import ModelGraph.Model.Field

/-!
# Fields by kind

One pass over the fields of a model deals them out by their kind, each kind in declaration order.
-/

namespace ModelGraph

/-- The fields of a model by kind. -/
structure Partition where
  scalar : List Field
  relation : List Field
  enum : List Field
  deriving DecidableEq, Repr

namespace Partition

/-- The partition with one more field in front. -/
def cons (f : Field) (p : Partition) : Partition :=
  match f.kind with
  | .scalar => { p with scalar := f :: p.scalar }
  | .object => { p with relation := f :: p.relation }
  | .enum => { p with enum := f :: p.enum }

/-- The partition of a list of fields. -/
def ofFields : List Field → Partition
  | [] => ⟨[], [], []⟩
  | f :: rest => cons f (ofFields rest)

end Partition

end ModelGraph
