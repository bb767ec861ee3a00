import Mathlib.Data.List.Forall2
import ModelGraph.Log.Traced

/-!
# Outcomes of traced computations

The outcome of a computation does not depend on what is logged on the way. A computation of two
steps succeeds exactly when both steps do (`outcome_bind_eq_ok_iff`), and one that goes through a
list exactly when it succeeds on each item (`outcome_each_eq_ok_iff`).
-/

namespace ModelGraph.Traced

variable {ε α β : Type}

@[simp] theorem outcome_pure (a : α) : (pure a : Traced ε α).outcome = .ok a := rfl

@[simp] theorem outcome_result (a : α) : (result a : Traced ε α).outcome = .ok a := rfl

@[simp] theorem outcome_fail (e : ε) : (fail e : Traced ε α).outcome = .error e := rfl

@[simp] theorem outcome_log (source : Log.Source) (level : Log.Level) (message : String) :
    (log source level message : Traced ε Unit).outcome = .ok () := rfl

@[simp] theorem outcome_ofExcept (outcome : Except ε α) : (ofExcept outcome).outcome = outcome := rfl

/-- The outcome of two steps is that of the second one on the result of the first one. -/
theorem outcome_bind (x : Traced ε α) (f : α → Traced ε β) :
    (x >>= f).outcome = x.outcome >>= fun a => (f a).outcome := by
  show (andThen x f).outcome = _
  unfold andThen
  cases x.outcome <;> rfl

/-- Two steps succeed together exactly when the first one succeeds and the second one succeeds on
its result. -/
theorem outcome_bind_eq_ok_iff {x : Traced ε α} {f : α → Traced ε β} {b : β} :
    (x >>= f).outcome = .ok b ↔ ∃ a, x.outcome = .ok a ∧ (f a).outcome = .ok b := by
  show (andThen x f).outcome = .ok b ↔ _
  unfold andThen
  cases x.outcome with
  | error e => simp
  | ok a => simp

/-- A step that logs changes no outcome. -/
@[simp] theorem outcome_log_bind (source : Log.Source) (level : Log.Level) (message : String)
    (f : Unit → Traced ε β) : (log source level message >>= f).outcome = (f ()).outcome := rfl

/-- Going through a list succeeds exactly when it succeeds on each item, and the results stand in
the order of the items. -/
theorem outcome_each_eq_ok_iff {f : α → Traced ε β} {items : List α} {results : List β} :
    (each f items).outcome = .ok results ↔
      List.Forall₂ (fun a b => (f a).outcome = .ok b) items results := by
  induction items generalizing results with
  | nil =>
      rw [List.forall₂_nil_left_iff]
      exact ⟨fun h => (Except.ok.inj h).symm, fun h => by rw [h]; rfl⟩
  | cons a rest ih =>
      show (f a >>= fun b => each f rest >>= fun bs => result (b :: bs)).outcome = .ok results ↔ _
      simp only [outcome_bind_eq_ok_iff, ih, outcome_result, List.forall₂_cons_left_iff,
        Except.ok.injEq]
      constructor
      · rintro ⟨b, hb, bs, hbs, rfl⟩
        exact ⟨b, bs, hb, hbs, rfl⟩
      · rintro ⟨b, bs, hb, hbs, rfl⟩
        exact ⟨b, hb, bs, hbs, rfl⟩

/-- What was computed of the outcome holds of the result. -/
theorem exists_outcome_of_any {x : Traced ε α} {p : α → Bool}
    (h : x.outcome.toOption.any p = true) : ∃ a, x.outcome = .ok a ∧ p a = true := by
  cases houtcome : x.outcome with
  | error e => simp [houtcome, Except.toOption] at h
  | ok a => exact ⟨a, rfl, by simpa [houtcome, Except.toOption] using h⟩

end ModelGraph.Traced
