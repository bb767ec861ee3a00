import ModelGraph.Yaml.Kind
import ModelGraph.Yaml.Lexer
import ModelGraph.Yaml.Scalar

/-!
# Nodes

A document is made of numbered nodes: scalars, lists and objects, each of some kind. An anchor
names a node and an alias stands for the node of that name, also within the node itself, so that a
node can stand in several places.

A fault counts only when no fault comes before it, so the reader of nodes asks for tokens one by
one, and no sooner than it needs them: what the text is refused for shows up when a token is asked
for that is not known. The reader has a limit on its steps, which `Document.ofTokens?` sets higher
than any tokens need: a step takes a token or goes one level down, and every level begins with a
token.
-/

namespace ModelGraph.Yaml

/-- The number of a node in its document. -/
abbrev NodeId := Nat

/-- What a node is made of. -/
inductive Shape where
  | scalar (written : Written)
  | list (items : List NodeId)
  | object (entries : List (NodeId × NodeId))
  deriving Repr

/-- A node of a document. -/
structure Node where
  kind : Kind
  shape : Shape
  deriving Repr

instance : Inhabited Node where
  default := ⟨.null, .scalar ⟨"", false⟩⟩

/-- The nodes of a document, and which of them it consists of. -/
structure Document where
  nodes : Array Node
  root : NodeId

namespace Document

/-- What is left to read, the nodes so far, and what the names and handles that are known by now
stand for. -/
structure Source where
  tokens : Tokens
  nodes : Array Node
  anchors : List (String × NodeId)
  handles : List (String × String)

/-- A reader of nodes. -/
abbrev Reader := StateT Source (Except Refusal)

/-- Refuses the text. -/
def refuse (fault : Fault) : Reader α :=
  throw (.malformed fault)

/-! ## Tokens -/

/-- The next token, if there is one. -/
def peek : Reader (Option Token) := do
  let tokens := (← get).tokens
  match tokens.known, tokens.refusal with
  | t :: _, _ => return some t
  | [], none => return none
  | [], some refusal => throw refusal

/-- Passes over the next token. -/
def pass : Reader Unit :=
  modify fun source =>
    { source with tokens := { source.tokens with known := source.tokens.known.drop 1 } }

/-- Whether the next token is one of the given ones. -/
def isNext (tokens : List Token) : Reader Bool := do
  return (← peek).any tokens.contains

/-- Passes over the next token if it is the given one, and says whether it is. -/
def passIf (t : Token) : Reader Bool := do
  if ← isNext [t] then
    pass
    return true
  return false

/-! ## Properties of nodes -/

/-- Reads an anchor. -/
def readAnchor : Reader (Option String) := do
  match ← peek with
  | some (.anchor name) =>
    pass
    return some name
  | _ => return none

/-- Reads a tag. -/
def readTag : Reader (Option Tag) := do
  match ← peek with
  | some (.tag tag) =>
    pass
    return some tag
  | _ => return none

/-- The full text of a tag. -/
def tagText (tag : Tag) : Reader String := do
  match tag.handle with
  | none => return tag.suffix
  | some handle =>
    match (← get).handles.lookup handle with
    | some meaning => return meaning ++ tag.suffix
    | none => refuse .undefinedHandle

/-- The name and the tag of a node. -/
structure Properties where
  anchor : Option String
  tag : Option String

/-- Reads an anchor and a tag, in either order. -/
def properties : Reader Properties := do
  let (anchor, tag) ←
    match ← readAnchor with
    | some name => pure (some name, ← readTag)
    | none =>
      let tag ← readTag
      if tag.isSome then pure (← readAnchor, tag) else pure (none, none)
  return { anchor, tag := ← tag.mapM tagText }

/-- Whether the text of a node decides its kind: it has no tag but an exclamation mark, and that or
no quotes. -/
def isOpen (tag : Option String) (plain : Bool) : Bool :=
  (tag.isNone && plain) || tag == some "!"

/-- The kind that a tag says; an exclamation mark alone says nothing. -/
def kindOf (tag : Option String) (otherwise : Kind) : Kind :=
  match tag with
  | none => otherwise
  | some tag => if tag = "!" then otherwise else .ofTag tag

/-! ## Making nodes -/

/-- Adds a node. -/
def add (node : Node) : Reader NodeId := do
  let id := (← get).nodes.size
  modify fun source => { source with nodes := source.nodes.push node }
  return id

/-- Adds a node with a name, if it has one. A name is given once only. -/
def addNamed (anchor : Option String) (node : Node) : Reader NodeId := do
  match anchor with
  | none => add node
  | some name =>
    if ((← get).anchors.lookup name).isSome then refuse .duplicateAnchor
    let id ← add node
    modify fun source => { source with anchors := (name, id) :: source.anchors }
    return id

/-- Adds a scalar. -/
def addScalar (p : Properties) (style : Style) (text : String) : Reader NodeId :=
  let kind := if isOpen p.tag (style == .plain) then .ofText text else kindOf p.tag .text
  addNamed p.anchor ⟨kind, .scalar ⟨text, style == .torn⟩⟩

/-- Adds a node where nothing is written. -/
def addNothing : Reader NodeId :=
  add default

/-- Adds a node without content, which has to have a name or a tag. -/
def addEmpty (p : Properties) : Reader NodeId :=
  if p.anchor.isNone && p.tag.isNone then refuse .noContent else addScalar p .plain ""

/-- The node of a name. -/
def lookUp (name : String) : Reader NodeId := do
  match (← get).anchors.lookup name with
  | some id => return id
  | none => refuse .undefinedAlias

/-- Gives a node another shape. -/
def reshape (id : NodeId) (shape : Shape) : Reader Unit :=
  modify fun source =>
    { source with nodes := source.nodes.modify id fun node => { node with shape } }

/-- Reads a list. Its name stands for it from its beginning on. -/
def addList (p : Properties) (items : Reader (List NodeId)) : Reader NodeId := do
  let id ← addNamed p.anchor ⟨kindOf p.tag .list, .list []⟩
  reshape id (.list (← items))
  return id

/-- Reads an object. Its name stands for it from its beginning on. -/
def addObject (p : Properties) (entries : Reader (List (NodeId × NodeId))) : Reader NodeId := do
  let id ← addNamed p.anchor ⟨kindOf p.tag .object, .object []⟩
  reshape id (.object (← entries))
  return id

/-! ## Reading nodes -/

/-- Reads what stands before one of the given tokens, which may be nothing. -/
def before (stops : List Token) (read : Reader NodeId) : Reader NodeId := do
  if ← isNext stops then addNothing else read

/-- What a node may be besides a scalar and what stands in brackets. -/
inductive Place where
  /-- Nothing else: the place is inside brackets. -/
  | flow
  /-- An indented list or object. -/
  | block
  /-- That, or a list that is indented no further than the object around it. -/
  | blockValue
  deriving DecidableEq, Repr

mutual

/-- Reads a node that may stand `room` levels deep. -/
def read (place : Place) (room : Nat) : Nat → Reader NodeId
  | 0 => refuse .noContent
  | fuel + 1 => do
    if room = 0 then throw (.impossible .tooDeep)
    match ← peek with
    | some (.alias name) =>
      pass
      lookUp name
    | _ => readContent place (room - 1) (← properties) fuel
termination_by structural fuel => fuel

/-- Reads the content of a node. -/
def readContent (place : Place) (room : Nat) (p : Properties) : Nat → Reader NodeId
  | 0 => refuse .noContent
  | fuel + 1 => do
    match ← peek with
    | some (.scalar text style) =>
      pass
      addScalar p style text
    | some .flowListStart => addList p (pass *> flowItems true room fuel)
    | some .flowObjectStart => addObject p (pass *> flowEntries true room fuel)
    | some .blockListStart =>
      if place = .flow then addEmpty p else addList p (pass *> blockItems room fuel)
    | some .blockObjectStart =>
      if place = .flow then addEmpty p else addObject p (pass *> blockEntries room fuel)
    | some .item =>
      if place = .blockValue then addList p (outdentedItems room fuel) else addEmpty p
    | _ => addEmpty p
termination_by structural fuel => fuel

/-- Reads the items of an indented list. -/
def blockItems (room : Nat) : Nat → Reader (List NodeId)
  | 0 => refuse .unexpectedToken
  | fuel + 1 => do
    if ← passIf .item then
      let first ← before [.item, .blockEnd] (read .block room fuel)
      return first :: (← blockItems room fuel)
    else if ← passIf .blockEnd then return []
    else refuse .unexpectedToken
termination_by structural fuel => fuel

/-- Reads the items of a list that is indented no further than the object around it. -/
def outdentedItems (room : Nat) : Nat → Reader (List NodeId)
  | 0 => refuse .unexpectedToken
  | fuel + 1 => do
    if ← passIf .item then
      let first ← before [.item, .key, .value, .blockEnd] (read .block room fuel)
      return first :: (← outdentedItems room fuel)
    else return []
termination_by structural fuel => fuel

/-- Reads the entries of an indented object. -/
def blockEntries (room : Nat) : Nat → Reader (List (NodeId × NodeId))
  | 0 => refuse .unexpectedToken
  | fuel + 1 => do
    if ← passIf .key then
      let stops : List Token := [.key, .value, .blockEnd]
      let key ← before stops (read .blockValue room fuel)
      let value ← if ← passIf .value then before stops (read .blockValue room fuel) else addNothing
      return (key, value) :: (← blockEntries room fuel)
    else if ← passIf .blockEnd then return []
    else refuse .unexpectedToken
termination_by structural fuel => fuel

/-- Reads the value of a key inside brackets that `stop` closes. -/
def flowValue (stop : Token) (room : Nat) : Nat → Reader NodeId
  | 0 => refuse .unexpectedToken
  | fuel + 1 => do
    if ← passIf .value then before [.comma, stop] (read .flow room fuel) else addNothing
termination_by structural fuel => fuel

/-- Reads the items of a list in brackets. A comma stands before each item but the first, and one
may stand before the closing bracket. -/
def flowItems (first : Bool) (room : Nat) : Nat → Reader (List NodeId)
  | 0 => refuse .unexpectedToken
  | fuel + 1 => do
    if ← passIf .flowListEnd then return []
    if !first then
      if !(← passIf .comma) then refuse .unexpectedToken
    if ← passIf .flowListEnd then return []
    let item ←
      if ← isNext [.key] then
        addObject ⟨none, none⟩ do
          pass
          let key ← before [.value, .comma, .flowListEnd] (read .flow (room - 1) fuel)
          return [(key, ← flowValue .flowListEnd (room - 1) fuel)]
      else read .flow room fuel
    return item :: (← flowItems false room fuel)
termination_by structural fuel => fuel

/-- Reads the entries of an object in brackets. A node without a colon is a key without a value. -/
def flowEntries (first : Bool) (room : Nat) : Nat → Reader (List (NodeId × NodeId))
  | 0 => refuse .unexpectedToken
  | fuel + 1 => do
    if ← passIf .flowObjectEnd then return []
    if !first then
      if !(← passIf .comma) then refuse .unexpectedToken
    if ← passIf .flowObjectEnd then return []
    let entry ←
      if ← passIf .key then
        let key ← before [.value, .comma, .flowObjectEnd] (read .flow room fuel)
        pure (key, ← flowValue .flowObjectEnd room fuel)
      else
        let key ← read .flow room fuel
        pure (key, ← addNothing)
    return entry :: (← flowEntries false room fuel)
termination_by structural fuel => fuel

end

/-! ## Reading documents -/

/-- The handles that need no directive. -/
def standardHandles : List (String × String) :=
  [("!", "!"), ("!!", Kind.standardStart)]

/-- Reads the directives at the head of a document. The version is given once at most, and so is the
meaning of a handle. -/
def directives (versioned : Bool) (handles : List (String × String)) :
    Nat → Reader (List (String × String))
  | 0 => refuse .badDirective
  | fuel + 1 => do
    match ← peek with
    | some (.directive directive) =>
      pass
      match directive with
      | .version major =>
        if versioned then refuse .duplicateDirective
        if major ≠ 1 then refuse .incompatibleVersion
        directives true handles fuel
      | .handle name meaning =>
        if (handles.lookup name).isSome then refuse .duplicateDirective
        directives versioned ((name, meaning) :: handles) fuel
      | .other => directives versioned handles fuel
    | _ => return handles ++ standardHandles

/-- Whether a document without content ends before a token. -/
def endsDocument : Option Token → Bool
  | none => true
  | some (.directive _) => true
  | some t => t == .documentStart || t == .documentEnd

/-- Reads the head of a document, and says whether it has one. -/
def readHead (fuel : Nat) : Reader Bool := do
  match ← peek with
  | some (.directive _) | some .documentStart =>
    let handles ← directives false [] fuel
    modify fun source => { source with handles }
    if ← passIf .documentStart then return true
    refuse .badDirective
  | _ => return false

/-- Passes over the marks after a document. -/
def passEnds : Nat → Reader Unit
  | 0 => pure ()
  | fuel + 1 => do
    if ← passIf .documentEnd then passEnds fuel

/-- Reads the one document of a text, if the text has any. -/
def readOne (fuel : Nat) : Reader (Option NodeId) := do
  if (← peek).isNone then return none
  let headed ← readHead fuel
  let root ← if headed && endsDocument (← peek) then addNothing else read .block depthLimit fuel
  passEnds fuel
  if (← peek).isNone then return some root
  let _ ← readHead fuel
  refuse .secondDocument

/-- The one document of a text, if the text has any. -/
def ofTokens? (tokens : Tokens) : Except Refusal (Option Document) := do
  let source : Source := ⟨tokens, #[], [], standardHandles⟩
  let (root, source) ← (readOne (3 * tokens.known.length + 6)).run source
  return root.map fun root => ⟨source.nodes, root⟩

end Document

end ModelGraph.Yaml
