import ModelGraph.Proofs.Log.Outcome

/-!
# First failures

A computation of several steps ends with the failure of the first step that fails. Where it does
not depend on the results so far whether a step fails, the failure of the whole is the first one of
the steps (`failure?_bind`), and going through a list fails like the first item that fails
(`failure?_each`).
-/

namespace ModelGraph.Traced

variable {ε α β : Type}

/-- Why an outcome is a failure, if it is one. -/
def failureOf? : Except ε α → Option ε
  | .ok _ => none
  | .error e => some e

/-- Why a computation fails, if it does. -/
def failure? (x : Traced ε α) : Option ε :=
  failureOf? x.outcome

theorem failureOf?_eq_some_iff {outcome : Except ε α} {e : ε} :
    failureOf? outcome = some e ↔ outcome = .error e := by
  cases outcome <;> simp [failureOf?]

theorem failureOf?_eq_none_iff {outcome : Except ε α} :
    failureOf? outcome = none ↔ ∃ a, outcome = .ok a := by
  cases outcome <;> simp [failureOf?]

@[simp] theorem failure?_pure (a : α) : (pure a : Traced ε α).failure? = none := rfl

@[simp] theorem failure?_log_bind (source : Log.Source) (level : Log.Level) (message : String)
    (f : Unit → Traced ε β) : (log source level message >>= f).failure? = (f ()).failure? := rfl

@[simp] theorem failure?_logAll_bind (source : Log.Source) (level : Log.Level)
    (messages : List String) (f : Unit → Traced ε β) :
    (logAll source level messages >>= f).failure? = (f ()).failure? := rfl

@[simp] theorem failure?_ofExcept_ok_bind (a : α) (f : α → Traced ε β) :
    (ofExcept (.ok a) >>= f).failure? = (f a).failure? := rfl

/-- Two steps fail like the first one, or else like the second one. -/
theorem failure?_bind {x : Traced ε α} {f : α → Traced ε β} {next : Option ε}
    (h : ∀ a, (f a).failure? = next) : (x >>= f).failure? = x.failure?.or next := by
  show (andThen x f).failure? = _
  unfold andThen failure?
  cases x.outcome with
  | error e => rfl
  | ok a => exact h a

/-- Going through a list fails like the first item that fails. -/
theorem failure?_each (f : α → Traced ε β) (items : List α) :
    (each f items).failure? = items.findSome? fun a => (f a).failure? := by
  induction items with
  | nil => rfl
  | cons a rest ih =>
      have hrest : ∀ b, (each f rest >>= fun bs => pure (b :: bs)).failure? =
          rest.findSome? fun a => (f a).failure? := fun b => by
        rw [failure?_bind fun bs => failure?_pure (b :: bs), Option.or_none, ih]
      show (f a >>= fun b => each f rest >>= fun bs => pure (b :: bs)).failure? = _
      rw [failure?_bind hrest, List.findSome?_cons]
      cases (f a).failure? <;> rfl

/-! ## Failing at all -/

/-- A computation fails. -/
def Fails (x : Traced ε α) : Prop :=
  ∃ e, x.outcome = .error e

theorem Fails.outcome_ne_ok {x : Traced ε α} (h : x.Fails) (a : α) : x.outcome ≠ .ok a := by
  obtain ⟨e, he⟩ := h
  rw [he]
  exact nofun

/-- A computation fails exactly when there is a reason for it. -/
theorem fails_iff {x : Traced ε α} : x.Fails ↔ x.failure?.isSome = true := by
  rw [Fails, failure?]
  cases x.outcome <;> simp [failureOf?]

/-- Two steps of which the second one does not depend on the first one fail when one of them
does. -/
theorem fails_bind_iff {x : Traced ε α} {f : α → Traced ε β} {next : Option ε}
    (h : ∀ a, (f a).failure? = next) : (x >>= f).Fails ↔ x.Fails ∨ next.isSome = true := by
  rw [fails_iff, failure?_bind h, Option.isSome_or, Bool.or_eq_true, fails_iff]

/-- Going through a list fails when an item fails. -/
theorem fails_each_iff {f : α → Traced ε β} {items : List α} :
    (each f items).Fails ↔ ∃ a ∈ items, (f a).Fails := by
  rw [fails_iff, failure?_each, List.findSome?_isSome_iff]
  simp only [fails_iff]

end ModelGraph.Traced
