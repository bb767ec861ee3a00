import ModelGraph.Validation.Violation

/-!
# Checked values

Reading a value gives what was read or all violations in it, in order. Two readings are put
together side by side, so that the violations of both are reported; this is why a checked value
is an applicative functor and no monad.
-/

namespace ModelGraph.Validation

/-- What was read, or the violations that were found. -/
inductive Checked (α : Type u) where
  | ok (a : α)
  | refused (violations : List Violation)
  deriving Repr

namespace Checked

/-- The violations of a reading; a success has none. -/
def violations : Checked α → List Violation
  | .ok _ => []
  | .refused vs => vs

/-- Whether the reading succeeded. -/
def isOk : Checked α → Bool
  | .ok _ => true
  | .refused _ => false

/-- A reading whose only violation is `cause`, right at the value. -/
def refuse (cause : Cause) : Checked α :=
  .refused [⟨[], cause⟩]

/-- The reading as seen from the value around the one that was read. -/
def under (segment : Segment) : Checked α → Checked α
  | .ok a => .ok a
  | .refused vs => .refused (vs.map (Violation.under segment))

/-- The reading of `f` and of `a`, side by side. -/
def ap : Checked (α → β) → Checked α → Checked β
  | .ok f, .ok a => .ok (f a)
  | .ok _, .refused vs => .refused vs
  | .refused vs, .ok _ => .refused vs
  | .refused vs, .refused ws => .refused (vs ++ ws)

instance : Applicative Checked where
  pure := .ok
  seq f a := ap f (a ())

/-- What was read, or what `onRefused` makes of the violations. -/
def toExcept (onRefused : List Violation → ε) : Checked α → Except ε α
  | .ok a => .ok a
  | .refused vs => .error (onRefused vs)

/-- The violations of two readings side by side are those of the one, then those of the other. -/
@[simp] theorem violations_ap (f : Checked (α → β)) (a : Checked α) :
    (ap f a).violations = f.violations ++ a.violations := by
  cases f <;> cases a <;> simp [ap, violations]

@[simp] theorem violations_under (segment : Segment) (a : Checked α) :
    (a.under segment).violations = a.violations.map (Violation.under segment) := by
  cases a <;> simp [under, violations]

end Checked

end ModelGraph.Validation
