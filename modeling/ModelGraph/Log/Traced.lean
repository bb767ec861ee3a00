import ModelGraph.Log.Record

/-!
# Traced computations

A traced computation gives the records it logged, in order, and its result or the failure that
ended it. The records that were logged before a failure are kept.
-/

namespace ModelGraph

/-- The records of a computation and what came of it. -/
structure Traced (ε α : Type) where
  records : List Log.Record
  outcome : Except ε α

namespace Traced

/-- The computation that logs nothing and gives `a`. -/
def result (a : α) : Traced ε α :=
  ⟨[], .ok a⟩

/-- The computation that goes on with the result of another one, if it has one. -/
def andThen (x : Traced ε α) (f : α → Traced ε β) : Traced ε β :=
  match x.outcome with
  | .ok a => ⟨x.records ++ (f a).records, (f a).outcome⟩
  | .error e => ⟨x.records, .error e⟩

instance : Monad (Traced ε) where
  pure := result
  bind := andThen

/-- The computation that fails. -/
def fail (e : ε) : Traced ε α :=
  ⟨[], .error e⟩

/-- The computation that logs one record. -/
def log (source : Log.Source) (level : Log.Level) (message : String) : Traced ε Unit :=
  ⟨[⟨source, level, message⟩], .ok ()⟩

/-- The computation that logs several messages of one level. -/
def logAll (source : Log.Source) (level : Log.Level) (messages : List String) : Traced ε Unit :=
  ⟨messages.map fun message => ⟨source, level, message⟩, .ok ()⟩

/-- The computation that logs nothing and comes to a known outcome. -/
def ofExcept (outcome : Except ε α) : Traced ε α :=
  ⟨[], outcome⟩

/-- The results of `f` on the items of a list, one after the other, up to the first failure. -/
def each (f : α → Traced ε β) : List α → Traced ε (List β)
  | [] => result []
  | a :: rest => andThen (f a) fun b => andThen (each f rest) fun bs => result (b :: bs)

end Traced

end ModelGraph
