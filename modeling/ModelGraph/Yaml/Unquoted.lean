import ModelGraph.Yaml.Line

/-!
# Scalars without quotes

A plain scalar goes on as long as its characters and its indentation let it, over several lines if
need be. A block scalar is introduced by an indicator and made of all the lines below that are
indented far enough. Every reader gives what it read and the number of characters it took.
-/

namespace ModelGraph.Yaml

/-! ## Plain scalars -/

/-- The brackets of lists and objects. -/
def brackets : List Char :=
  ['[', ']', '\x7b', '\x7d']

/-- Whether a plain scalar ends before a text; `inFlow` says that it stands inside brackets. -/
def endsPlain (inFlow : Bool) : List Char → Bool
  | [] => true
  | c :: r =>
    isGap c || isBreak c ||
      (c == ':' && (atEdge r || (inFlow && r.head?.any (',' :: brackets).contains))) ||
      (inFlow && (',' :: '?' :: brackets).contains c)

/-- The longest run of characters that do not end a plain scalar. -/
def plainRun (inFlow : Bool) : List Char → List Char
  | [] => []
  | c :: r => if endsPlain inFlow (c :: r) then [] else c :: plainRun inFlow r

/-- What stands between two runs of a plain scalar: its folded text, the number of its characters,
and the column after it if it breaks the line. -/
structure PlainGap where
  text : List Char
  taken : Nat
  column : Option Nat

/-- Reads the breaks after a first one, and the blanks around them. The result is nothing when a
mark between documents ends the text. -/
def breaksInPlain (s : List Char) : Option (List Char × Nat) × Nat :=
  let step (state : List Char × Nat) (s : List Char) :
      Except Empty (Walk.Move (List Char × Nat) (Option (List Char × Nat))) :=
    let (breaks, column) := state
    match s with
    | [] => .ok (.stop (some (breaks.reverse, column)) 0)
    | c :: r =>
      if c = ' ' then .ok (.go (breaks, column + 1) 1)
      else if isBreak c then
        .ok (if atMark r then .stop none 1 else .go (breakText c :: breaks, 0) 1)
      else .ok (.stop (some (breaks.reverse, column)) 0)
  match Walk.run step (fun state => .ok (some (state.1.reverse, state.2))) 0 ([], 0) s with
  | .ok found => found

/-- Reads what stands after a run of a plain scalar. -/
def plainGap (s : List Char) : PlainGap :=
  let gap := s.takeWhile (· == ' ')
  match s.drop gap.length with
  | [] => ⟨gap, gap.length, none⟩
  | c :: r =>
    if isBreak c then
      if atMark r then ⟨[], gap.length + 1, some 0⟩
      else
        match breaksInPlain r with
        | (some (breaks, column), taken) =>
          ⟨folded c breaks, gap.length + 1 + taken, some column⟩
        | (none, taken) => ⟨[], gap.length + 1 + taken, some 0⟩
    else ⟨gap, gap.length, none⟩

/-- A plain scalar that was read. -/
structure PlainScalar where
  text : List Char
  /-- Whether a line break was taken at its end. -/
  brokeLine : Bool

/-- The state between two runs: the text so far and the gap after it, both with the last character
first, and whether that gap breaks the line. -/
structure PlainState where
  found : List Char
  gap : List Char
  brokeLine : Bool

/-- Reads a plain scalar. Outside brackets its further lines begin at the column `least` at
least. -/
def plainScalar (inFlow : Bool) (least : Nat) (s : List Char) : PlainScalar × Nat :=
  let step (state : PlainState) (s : List Char) :
      Except Empty (Walk.Move PlainState PlainScalar) :=
    let run := plainRun inFlow s
    if run.isEmpty then .ok (.stop ⟨state.found.reverse, state.brokeLine⟩ 0)
    else
      let gap := plainGap (s.drop run.length)
      let found := run.reverse ++ (state.gap ++ state.found)
      let taken := run.length + gap.taken
      let outdented := !inFlow && gap.column.any (· < least)
      if gap.text.isEmpty || (s.drop taken).head? == some '#' || outdented then
        .ok (.stop ⟨found.reverse, gap.column.isSome⟩ taken)
      else
        .ok (.go ⟨found, gap.text.reverse, gap.column.isSome⟩ taken)
  match Walk.run step (fun state => .ok ⟨state.found.reverse, state.brokeLine⟩) 0
      ⟨[], [], false⟩ s with
  | .ok found => found

/-! ## Block scalars -/

/-- What becomes of the breaks at the end of a block scalar. -/
inductive Chomping where
  | strip
  | clip
  | keep
  deriving DecidableEq, Repr

/-- The header of a block scalar. -/
structure BlockHeader where
  chomping : Chomping
  /-- How far the lines are indented, beyond what is around them. -/
  indentation : Option Nat
  deriving DecidableEq, Repr

/-- Reads how the end is treated, which is `clip` when nothing is said. -/
def chompingSign : List Char → Option Chomping
  | '+' :: _ => some .keep
  | '-' :: _ => some .strip
  | _ => none

/-- Reads an indentation of one digit. -/
def indentationDigit : List Char → Option Nat
  | c :: _ => if c.isDigit then some (c.toNat - '0'.toNat) else none
  | [] => none

/-- Reads the signs of a header, in either order, and gives the text after them. -/
def blockSigns (s : List Char) : BlockHeader × List Char :=
  match chompingSign s with
  | some chomping =>
    let digit := indentationDigit (s.drop 1)
    (⟨chomping, digit⟩, s.drop (if digit.isSome then 2 else 1))
  | none =>
    match indentationDigit s with
    | none => (⟨.clip, none⟩, s)
    | some digit =>
      match chompingSign (s.drop 1) with
      | some chomping => (⟨chomping, some digit⟩, s.drop 2)
      | none => (⟨.clip, some digit⟩, s.drop 1)

/-- Reads a header and the rest of its line. -/
def blockHeader (s : List Char) : Except Refusal (BlockHeader × Nat) :=
  let (header, rest) := blockSigns s
  let lineEnd := afterComment rest
  if header.indentation == some 0 || !atBlank rest || !atLineEnd lineEnd then
    .error (.malformed .badBlockHeader)
  else .ok (header, s.length - (lineEnd.drop 1).length)

/-- Breaks between lines that are not empty, and the column after them. -/
structure BlockGap where
  breaks : List Char
  column : Nat

/-- Reads breaks, and the blanks up to the column `indent` on each line. -/
def blockGap (indent : Nat) (s : List Char) : BlockGap × Nat :=
  let step (state : BlockGap) (s : List Char) : Except Empty (Walk.Move BlockGap BlockGap) :=
    match s with
    | [] => .ok (.stop state 0)
    | c :: _ =>
      if c = ' ' ∧ state.column < indent then
        .ok (.go { state with column := state.column + 1 } 1)
      else if isBreak c then .ok (.go ⟨breakText c :: state.breaks, 0⟩ 1)
      else .ok (.stop state 0)
  match Walk.run step .ok 0 ⟨[], 0⟩ s with
  | .ok (gap, taken) => ({ gap with breaks := gap.breaks.reverse }, taken)

/-- Reads breaks and all blanks, and gives the greatest column that the blanks reach. -/
def blockMargin (s : List Char) : Nat × BlockGap × Nat :=
  let step (state : Nat × BlockGap) (s : List Char) :
      Except Empty (Walk.Move (Nat × BlockGap) (Nat × BlockGap)) :=
    let (widest, gap) := state
    match s with
    | [] => .ok (.stop state 0)
    | c :: _ =>
      if c = ' ' then
        .ok (.go (max widest (gap.column + 1), { gap with column := gap.column + 1 }) 1)
      else if isBreak c then .ok (.go (widest, ⟨breakText c :: gap.breaks, 0⟩) 1)
      else .ok (.stop state 0)
  match Walk.run step .ok 0 (0, ⟨[], 0⟩) s with
  | .ok ((widest, gap), taken) => (widest, { gap with breaks := gap.breaks.reverse }, taken)

/-- The text so far of a block scalar, the last character first, and the breaks after it. -/
structure BlockState where
  found : List Char
  breaks : List Char

/-- What joins a line to the next one, before the empty lines in between. -/
def lineJoint (fold : Bool) (line : List Char) (break? : Option Char) (breaks next : List Char) :
    List Char :=
  let foldable := fold && break?.map breakText == some '\n' &&
    !line.head?.any isGap && !next.head?.any isGap
  if foldable then (if breaks.isEmpty then [' '] else []) else break?.toList.map breakText

/-- What is left of the breaks after the last line. -/
def lineEnding (chomping : Chomping) (break? : Option Char) (breaks : List Char) : List Char :=
  match chomping with
  | .strip => []
  | .clip => break?.toList.map breakText
  | .keep => break?.toList.map breakText ++ breaks

/-- Reads the lines of a block scalar, from the first one that is not empty. -/
def blockLines (fold : Bool) (chomping : Chomping) (indent : Nat) (breaks s : List Char) :
    List Char × Nat :=
  let step (state : BlockState) (s : List Char) :
      Except Empty (Walk.Move BlockState (List Char)) :=
    let line := s.takeWhile fun c => !isBreak c
    let rest := s.drop line.length
    let break? := rest.head?
    let (gap, taken) := blockGap indent (rest.drop 1)
    let next := rest.drop (1 + taken)
    let found := line.reverse ++ (state.breaks.reverse ++ state.found)
    let taken := line.length + (if break?.isSome then 1 else 0) + taken
    if gap.column = indent ∧ break?.isSome ∧ next ≠ [] then
      let joint := lineJoint fold line break? gap.breaks next
      .ok (.go ⟨joint.reverse ++ found, gap.breaks⟩ taken)
    else
      .ok (.stop (found.reverse ++ lineEnding chomping break? gap.breaks) taken)
  match Walk.run step (fun state => .ok state.found.reverse) 0 ⟨[], breaks⟩ s with
  | .ok found => found

/-- Reads a block scalar after its indicator. Its lines are indented by `least` at least. -/
def blockScalar (fold : Bool) (least : Nat) (s : List Char) : Except Refusal (List Char × Nat) :=
  (blockHeader s).map fun (header, headerTaken) =>
    let body := s.drop headerTaken
    let (indent, gap, gapTaken) : Nat × BlockGap × Nat :=
      match header.indentation with
      | some n =>
        let (gap, taken) := blockGap (least + n - 1) body
        (least + n - 1, gap, taken)
      | none =>
        let (widest, gap, taken) := blockMargin body
        (max least widest, gap, taken)
    let lines := body.drop gapTaken
    if gap.column = indent ∧ lines ≠ [] then
      let (text, taken) := blockLines fold header.chomping indent gap.breaks lines
      (text, headerTaken + gapTaken + taken)
    else
      (if header.chomping = .keep then gap.breaks else [], headerTaken + gapTaken)

end ModelGraph.Yaml
