import ModelGraph.Walk

/-!
# Walks step by step

A walk that skips some items is one over the others (`run_skip`), so a step that goes on can be
followed by the walk behind what it took (`run_of_go`). A walk ends like one of its steps or like its
end: `error_of_run` is for walks that are refused, and `exists_finish_of_run` for walks whose steps
never stop.
-/

namespace ModelGraph.Walk

variable {α ε ρ σ : Type} {step : σ → List α → Except ε (Move σ ρ)} {finish : σ → Except ε ρ}

/-- The outcome of a walk in a list that has `n` more items at its front. -/
def behind (n : Nat) (outcome : Except ε (ρ × Nat)) : Except ε (ρ × Nat) :=
  outcome.map fun (result, taken) => (result, taken + n)

theorem behind_zero (outcome : Except ε (ρ × Nat)) : behind 0 outcome = outcome := by
  cases outcome <;> rfl

theorem behind_behind (m n : Nat) (outcome : Except ε (ρ × Nat)) :
    behind m (behind n outcome) = behind (n + m) outcome := by
  cases outcome with
  | error e => rfl
  | ok found => exact congrArg Except.ok (Prod.ext rfl (Nat.add_assoc ..))

theorem run_succ (skip : Nat) (state : σ) (a : α) (rest : List α) :
    run step finish (skip + 1) state (a :: rest) = behind 1 (run step finish skip state rest) :=
  rfl

/-- A walk that skips some items goes along the others. -/
theorem run_skip {skip : Nat} {s : List α} (h : skip ≤ s.length) (state : σ) :
    run step finish skip state s = behind skip (run step finish 0 state (s.drop skip)) := by
  induction skip generalizing s with
  | zero => rw [List.drop_zero, behind_zero]
  | succ skip ih =>
      cases s with
      | nil => exact absurd h (Nat.not_succ_le_zero skip)
      | cons a rest =>
          rw [run_succ, ih (Nat.le_of_succ_le_succ h), behind_behind, List.drop_succ_cons]

/-- A step that goes on is followed by the walk behind what it took. -/
theorem run_of_go {state next : σ} {a : α} {rest : List α} {more : Nat}
    (hstep : step state (a :: rest) = .ok (.go next (more + 1))) (hmore : more ≤ rest.length) :
    run step finish 0 state (a :: rest) =
      behind (more + 1) (run step finish 0 next (rest.drop more)) := by
  have hrun : run step finish 0 state (a :: rest) = behind 1 (run step finish more next rest) := by
    rw [run, hstep]
    rfl
  rw [hrun, run_skip hmore, behind_behind]

/-- A step that stops ends the walk. -/
theorem run_of_stop {state : σ} {a : α} {rest : List α} {result : ρ} {taken : Nat}
    (hstep : step state (a :: rest) = .ok (.stop result taken)) :
    run step finish 0 state (a :: rest) = .ok (result, taken) := by
  rw [run, hstep]

/-- A step that is refused ends the walk. -/
theorem run_of_error {state : σ} {a : α} {rest : List α} {e : ε}
    (hstep : step state (a :: rest) = .error e) :
    run step finish 0 state (a :: rest) = .error e := by
  rw [run, hstep]

/-- A walk is refused as one of its steps is, or as its end is. -/
theorem error_of_run {P : ε → Prop} (hstep : ∀ state s e, step state s = .error e → P e)
    (hfinish : ∀ state e, finish state = .error e → P e) {skip : Nat} {state : σ} {s : List α}
    {e : ε} (h : run step finish skip state s = .error e) : P e := by
  induction s generalizing skip state with
  | nil =>
      rw [run] at h
      cases hend : finish state with
      | ok result =>
          rw [hend] at h
          cases h
      | error reason =>
          rw [hend] at h
          cases h
          exact hfinish state e hend
  | cons a rest ih =>
      have honward : ∀ {skip state},
          behind 1 (run step finish skip state rest) = .error e → P e := by
        intro skip state h
        cases hrest : run step finish skip state rest with
        | ok found =>
            rw [hrest] at h
            cases h
        | error reason =>
            rw [hrest] at h
            cases h
            exact ih hrest
      unfold run at h
      split at h
      · exact honward h
      · split at h
        · next hrefused =>
            cases h
            exact hstep _ _ _ hrefused
        · cases h
        · exact honward h

/-- A walk whose steps never stop comes to its end. -/
theorem exists_finish_of_run
    (hstep : ∀ state a rest result taken, step state (a :: rest) ≠ .ok (.stop result taken))
    {skip : Nat} {state : σ} {s : List α} {result : ρ} {taken : Nat}
    (h : run step finish skip state s = .ok (result, taken)) :
    ∃ state, finish state = .ok result := by
  induction s generalizing skip state taken with
  | nil =>
      rw [run] at h
      cases hend : finish state with
      | ok last =>
          rw [hend] at h
          cases h
          exact ⟨state, hend⟩
      | error reason =>
          rw [hend] at h
          cases h
  | cons a rest ih =>
      have honward : ∀ {skip state},
          behind 1 (run step finish skip state rest) = .ok (result, taken) →
            ∃ state, finish state = .ok result := by
        intro skip state h
        cases hrest : run step finish skip state rest with
        | ok found =>
            rw [hrest] at h
            cases h
            exact ih hrest
        | error reason =>
            rw [hrest] at h
            cases h
      unfold run at h
      split at h
      · exact honward h
      · split at h
        · cases h
        · next hstop => exact absurd hstop (hstep _ _ _ _ _)
        · exact honward h

end ModelGraph.Walk
