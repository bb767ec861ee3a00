import ModelGraph.Yaml.Content

/-!
# Reading YAML

A text has one document at most, which is a value. Within a node its own name stands for an empty
value of its kind. A node that stands in several places is read once.
-/

namespace ModelGraph.Yaml

/-- The values that are known by now. -/
abbrev Known := Array (Option Value)

/-- Notes the value of a node. -/
def noteValue (id : NodeId) (value : Value) : StateM Known Unit :=
  modify fun known => known.setIfInBounds id (some value)

/-- The value of a node from the contents of all nodes. The limit is the number of nodes around
it, none of which comes twice. -/
def valueOf (contents : Array (Option Content)) : Nat → NodeId → StateM Known Value
  | 0, _ => pure .null
  | fuel + 1, id => do
    match ((← get)[id]?).join with
    | some value => return value
    | none =>
      let value ←
        match (contents[id]?).join with
        | none | some .pending => pure .null
        | some (.scalar key) => pure (.scalar key.scalar)
        | some (.keys keys) => pure (.list (keys.map Value.scalar))
        | some (.list items) =>
          noteValue id (.list [])
          pure (.list (← items.mapM (valueOf contents fuel)))
        | some (.pairs entries) =>
          noteValue id (.list [])
          let pairs ← entries.mapM fun (first, second) => do
            return Value.list
              [← valueOf contents fuel first, ← valueOf contents fuel second]
          pure (.list pairs)
        | some (.object entries) =>
          noteValue id (.object [])
          let values ← entries.mapM fun (key, item) => do
            return (key.scalar, ← valueOf contents fuel item)
          pure (.object values)
      noteValue id value
      return value

/-- The value of a document. -/
def Document.toValue (d : Document) : Except Refusal Value := do
  let contents ← Content.ofDocument d
  return ((valueOf contents (d.nodes.size + 1) d.root).run
    (Array.replicate d.nodes.size none)).1

/-- The value of the document of a text; a text without a document is null. -/
def read (stream : Text.Stream) : Except Refusal Value := do
  match ← Document.ofTokens? (.ofStream stream) with
  | none => return .null
  | some document => document.toValue

end ModelGraph.Yaml
