import ModelGraph.Yaml.Node

/-!
# The content of nodes

A node stands for a scalar, or for a list or object of other nodes. The nodes of a document are
worked through level by level, from the root on, and each of them once: a scalar is made as soon as
what is around it is filled, and a list or object is filled after all that is on its level. So of
two values that cannot be, the one that is nearer to the root is reported.

An object takes in the entries of the objects under its merge key; its own entries count before
those.
-/

namespace ModelGraph.Yaml

/-- A key. What is no number is another key every time it is worked out, so a key says which node it
comes from in that case. -/
structure Key where
  scalar : Scalar
  source : Option NodeId
  deriving Inhabited

/-- Whether two keys are one and the same. -/
def Key.same (a b : Key) : Bool :=
  a.source == b.source && a.scalar.sameKey b.scalar

/-- What a node stands for. -/
inductive Content where
  | scalar (key : Key)
  /-- A list or object that is not filled yet. -/
  | pending
  | list (items : List NodeId)
  | pairs (entries : List (NodeId × NodeId))
  | keys (keys : List Scalar)
  | object (entries : List (Key × NodeId))
  deriving Inhabited

namespace Content

/-- The state of the work: the nodes, what is known of them, and those to be filled on the next
level, the last one first. -/
structure Work where
  nodes : Array Node
  contents : Array (Option Content)
  next : List NodeId

/-- A step of the work. -/
abbrev Worker := StateT Work (Except Refusal)

/-- Refuses the text. -/
def refuse (fault : Fault) : Worker α :=
  throw (.malformed fault)

/-- The node of a number. -/
def node (id : NodeId) : Worker Node := do
  return (← get).nodes[id]?.getD default

/-- Gives a node another kind. -/
def setKind (id : NodeId) (kind : Kind) : Worker Unit :=
  modify fun work => { work with nodes := work.nodes.modify id fun node => { node with kind } }

/-- The entries of a node that is an object. -/
def entries (id : NodeId) : Worker (List (NodeId × NodeId)) := do
  match (← node id).shape with
  | .object entries => return entries
  | _ => refuse .notMergeable

/-- Gives an object other entries. -/
def setEntries (id : NodeId) (entries : List (NodeId × NodeId)) : Worker Unit :=
  modify fun work =>
    { work with nodes := work.nodes.modify id fun node => { node with shape := .object entries } }

/-- Notes the content of a node. -/
def note (id : NodeId) (content : Content) : Worker Unit :=
  modify fun work => { work with contents := work.contents.setIfInBounds id (some content) }

/-! ## Scalars -/

/-- The text of a node: its own, or the one under its key of a default value. The limit is the
number of nodes, which only a node that is its own default value goes beyond. -/
def written : Nat → NodeId → Worker Written
  | 0, _ => throw (.impossible .tooDeep)
  | fuel + 1, id => do
    match (← node id).shape with
    | .scalar written => return written
    | .list _ => refuse .wrongShape
    | .object entries =>
      match ← entries.findM? fun entry => return (← node entry.1).kind == .default with
      | some (_, value) => written fuel value
      | none => refuse .wrongShape

/-- The key that a node makes. -/
def key (id : NodeId) : Worker Key := do
  let n ← node id
  if n.kind = .merge ∨ n.kind = .default ∨ n.kind = .unknown then refuse .unknownTag
  let w ← written ((← get).nodes.size + 1) id
  match n.kind, n.shape with
  | .moment, .object _ => throw (.impossible .momentOfObject)
  | kind, _ =>
    let scalar ← kind.scalar w
    let isNew :=
      match scalar with
      | .real x => x.isNaN && !Number.isNotANumber w.text.toList
      | _ => false
    return ⟨scalar, if isNew then some id else none⟩

/-- Makes a node that is asked for: a scalar at once, and a list or object on the next level. -/
def make (id : NodeId) : Worker Content := do
  match ((← get).contents[id]?).join with
  | some content => return content
  | none =>
    if (← node id).kind.isCompound then
      note id .pending
      modify fun work => { work with next := id :: work.next }
      return .pending
    else
      let content := Content.scalar (← key id)
      note id content
      return content

/-! ## Merging -/

mutual

/-- Takes the entries under merge keys into an object, after those that are taken in already. A key
of a default value is a text from then on. -/
def merge (taken : List (NodeId × NodeId)) : Nat → NodeId → Worker Unit
  | 0, _ => refuse .notMergeable
  | fuel + 1, id => do
    let own ← entries id
    let isSpecial (entry : NodeId × NodeId) : Worker Bool := do
      let kind := (← node entry.1).kind
      return kind == .merge || kind == .default
    match ← own.findM? isSpecial with
    | none => if !taken.isEmpty then setEntries id (taken ++ own)
    | some (special, value) =>
      if (← node special).kind = .merge then
        setEntries id (own.eraseP fun entry => entry.1 == special)
        let more ← mergedEntries fuel value
        merge (taken ++ more) fuel id
      else
        setKind special .text
        merge taken fuel id

/-- The entries that a node under a merge key brings in: those of an object, or those of a list of
objects, where the first one counts before the others. -/
def mergedEntries : Nat → NodeId → Worker (List (NodeId × NodeId))
  | 0, _ => refuse .notMergeable
  | fuel + 1, id => do
    match (← node id).shape with
    | .scalar _ => refuse .notMergeable
    | .object _ =>
      merge [] fuel id
      entries id
    | .list items =>
      let lists ← items.mapM fun item => do
        let _ ← entries item
        merge [] fuel item
        entries item
      return lists.reverse.flatten

end

/-- A number of steps that no merging needs: each takes away a merge key or the key of a default
value, or goes from such a key to what is under it. -/
def mergeLimit (work : Work) : Nat :=
  let sizes := work.nodes.toList.map fun node =>
    match node.shape with
    | .object entries => entries.length
    | _ => 0
  2 * (sizes.foldr (· + ·) 0 + work.nodes.size) + 2

/-! ## Filling -/

/-- The entries with one more: in the place of the same key, or at the end. -/
def put (key : Key) (id : NodeId) : List (Key × NodeId) → List (Key × NodeId)
  | [] => [(key, id)]
  | entry :: rest =>
    if entry.1.same key then (entry.1, id) :: rest else entry :: put key id rest

/-- Makes the entries of an object. -/
def makeEntries (id : NodeId) : Worker (List (Key × NodeId)) := do
  merge [] (mergeLimit (← get)) id
  (← entries id).foldlM
    (fun made (keyId, value) => do
      match ← make keyId with
      | .scalar key =>
        let _ ← make value
        return put key value made
      | _ => refuse .compoundKey)
    []

/-- Makes a pair, which is written as an object of one entry. -/
def makePair (id : NodeId) : Worker (NodeId × NodeId) := do
  match (← node id).shape with
  | .object [(first, second)] =>
    let _ ← make first
    let _ ← make second
    return (first, second)
  | _ => refuse .wrongShape

/-- Fills a list or object. -/
def fill (id : NodeId) : Worker Unit := do
  let n ← node id
  match n.kind, n.shape with
  | .list, .list items =>
    items.forM fun item => discard (make item)
    note id (.list items)
  | .pairs, .list items => note id (.pairs (← items.mapM makePair))
  | .set, .object _ => note id (.keys ((← makeEntries id).map fun entry => entry.1.scalar))
  | .object, .object _ => note id (.object (← makeEntries id))
  | _, _ => refuse .wrongShape

/-- Fills level after level. -/
def fillLevels : Nat → Worker Unit
  | 0 => pure ()
  | fuel + 1 => do
    let level := (← get).next
    if !level.isEmpty then
      modify fun work => { work with next := [] }
      level.reverse.forM fill
      fillLevels fuel

/-- The contents of the nodes of a document. -/
def ofDocument (d : Document) : Except Refusal (Array (Option Content)) := do
  let work : Work := ⟨d.nodes, Array.replicate d.nodes.size none, []⟩
  let worker : Worker Unit := do
    let _ ← make d.root
    fillLevels (d.nodes.size + 1)
  return (← worker.run work).2.contents

end Content

end ModelGraph.Yaml
