/-!
# Walks

A walk goes along a list by steps. Each step looks at the rest of the list, takes some items off its
front, and either goes on or stops with a result. A step that goes on counts as taking one item
at least, so every walk comes to an end.
-/

namespace ModelGraph.Walk

/-- What a step comes to. -/
inductive Move (σ ρ : Type) where
  /-- The walk goes on in a new state. -/
  | go (state : σ) (taken : Nat)
  /-- The walk is over. -/
  | stop (result : ρ) (taken : Nat)

/-- The result of a walk and the number of items it took. The first `skip` items are taken already;
`finish` has the result when the list comes to its end. -/
def run (step : σ → List α → Except ε (Move σ ρ)) (finish : σ → Except ε ρ) (skip : Nat)
    (state : σ) : List α → Except ε (ρ × Nat)
  | [] => (finish state).map fun result => (result, 0)
  | a :: rest =>
    let onward (skip : Nat) (state : σ) : Except ε (ρ × Nat) :=
      (run step finish skip state rest).map fun (result, taken) => (result, taken + 1)
    match skip with
    | skip + 1 => onward skip state
    | 0 =>
      match step state (a :: rest) with
      | .error e => .error e
      | .ok (.stop result taken) => .ok (result, taken)
      | .ok (.go state taken) => onward (taken - 1) state

end ModelGraph.Walk
