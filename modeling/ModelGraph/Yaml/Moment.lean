import ModelGraph.Moment
import ModelGraph.Text.Numeral
import ModelGraph.Yaml.Fault

/-!
# Reading moments

A text is a date, or a date with a time of the day and perhaps a time zone. A date that is not in
the calendar, or a time that is not on the clock, is refused.
-/

namespace ModelGraph.Yaml

namespace Moment

/-! ## Reading -/

/-- Reads a number of at least `least` and at most `most` digits. -/
def number? (least most : Nat) (s : List Char) : Option (Nat × List Char) :=
  let digits := (s.take most).takeWhile Char.isDigit
  if digits.length < least then none
  else some (Text.numeral 10 digits, s.drop digits.length)

/-- Passes over a character. -/
def char? (c : Char) : List Char → Option (List Char)
  | d :: r => if d = c then some r else none
  | [] => none

/-- The text without the blanks and tabs at its front. -/
def skipBlanks (s : List Char) : List Char :=
  s.dropWhile fun c => c == ' ' || c == '\t'

/-- Reads what stands between a date and a time. -/
def separator? : List Char → Option (List Char)
  | c :: r =>
    if c == 'T' || c == 't' then some r
    else if c == ' ' || c == '\t' then some (skipBlanks r)
    else none
  | [] => none

/-- Reads the fraction of a second. Six of its digits count. -/
def fraction : List Char → Nat × List Char
  | '.' :: r =>
    let digits := r.takeWhile Char.isDigit
    let kept := digits.take 6
    (Text.numeral 10 kept * Nat.pow 10 (6 - kept.length), r.drop digits.length)
  | s => (0, s)

/-- Reads the time zone at the end of a text. -/
def zone? (s : List Char) : Option (Option Zone) :=
  match s with
  | [] => some none
  | _ =>
    match skipBlanks s with
    | ['Z'] => some (some ⟨0⟩)
    | sign :: r => do
      if sign ≠ '+' ∧ sign ≠ '-' then none
      let (hours, r) ← number? 1 2 r
      let minutes ←
        match r with
        | [] => some 0
        | ':' :: r => (number? 2 2 r).bind fun (minutes, r) => if r = [] then some minutes else none
        | _ => none
      let size : Int := 60 * hours + minutes
      return some ⟨if sign = '-' then -size else size⟩
    | [] => none

/-- Reads the time of the day. -/
def clock? (s : List Char) : Option Clock := do
  let s ← separator? s
  let (hour, s) ← number? 1 2 s
  let (minute, s) ← (char? ':' s).bind (number? 2 2)
  let (second, s) ← (char? ':' s).bind (number? 2 2)
  let (microsecond, s) := fraction s
  let zone ← zone? s
  return { hour, minute, second, microsecond, zone }

/-- The moment that a text is, whether there is such a moment or not. -/
def read? (s : List Char) : Option Moment := do
  let (year, rest) ← number? 4 4 s
  let (month, rest) ← (char? '-' rest).bind (number? 1 2)
  let (day, rest) ← (char? '-' rest).bind (number? 1 2)
  if rest = [] then return { year, month, day, clock := none }
  return { year, month, day, clock := some (← clock? rest) }

/-- Whether a text without a tag is a moment. The month and the day of a date alone have two digits
each then. -/
def isPlain (s : List Char) : Bool :=
  match read? s with
  | some m => m.clock.isSome || s.length == 10
  | none => false

/-! ## Checking -/

/-- What is impossible in a time zone. -/
def zoneFault? (zone : Zone) : Option Impossible :=
  if zone.minutes.natAbs < 1440 then none else some (.zone (Zone.duration zone.minutes))

/-- What is impossible in a date. -/
def dateFault? (m : Moment) : Option Impossible :=
  if m.year = 0 then some .year
  else if m.month = 0 ∨ 12 < m.month then some .month
  else if m.day = 0 ∨ Moment.daysIn m.year m.month < m.day then some .day
  else none

/-- What is impossible in a time of the day. -/
def clockFault? (c : Clock) : Option Impossible :=
  if 23 < c.hour then some .hour
  else if 59 < c.minute then some .minute
  else if 59 < c.second then some .second
  else none

/-- What is impossible in a moment: in its time zone, its date, or its time of the day. -/
def fault? (m : Moment) : Option Impossible :=
  ((m.clock.bind Clock.zone).bind zoneFault?).or ((dateFault? m).or (m.clock.bind clockFault?))

/-- The moment that a text is. -/
def ofText (s : List Char) : Except Impossible Moment :=
  match read? s with
  | none => .error .noMoment
  | some m =>
    match fault? m with
    | some impossible => .error impossible
    | none => .ok m

end Moment

end ModelGraph.Yaml
