import EnvAudit.Document.Moment
import EnvAudit.Pattern.Token
import EnvAudit.Yaml.Token
/-!
# Written times

A time is written as a day, then after a `T` or a space the hour, the minute and the second, a fraction, and a zone:
`Z`, or the hours that its clock is ahead or behind, and minutes.  Months, days and hours may have one digit.
-/
namespace EnvAudit.Yaml

/-- The number that at most `most` and at least `least` digits make, and what follows them. -/
def takeNumber? (least most : Nat) (t : Text) : Option (Nat × Text) :=
  let digits := (t.take most).takeWhile isAsciiDigit
  if digits.length < least then none else some (numberIn 10 digits, t.drop digits.length)

def isSpaceOrTab (c : Char) : Bool := c = ' ' || c = '\t'

/-- A day, and what follows it. -/
def takeDay? (t : Text) : Option (Moment × Text) := do
  let (year, t) ← takeNumber? 4 4 t
  let (month, t) ← takeNumber? 1 2 (← after? ['-'] t)
  let (day, t) ← takeNumber? 1 2 (← after? ['-'] t)
  some (⟨year, month, day, none⟩, t)

/-- What stands between a day and a time. -/
def skipTimeMark? : Text → Option Text
  | [] => none
  | c :: cs =>
    if c = 'T' || c = 't' then some cs else if isSpaceOrTab c then some (cs.dropWhile isSpaceOrTab) else none

/-- Millionths: a longer fraction is cut off, and a shorter one filled up with zeros. -/
def microOf (digits : Text) : Nat :=
  let kept := digits.take 6
  numberIn 10 kept * Nat.pow 10 (6 - kept.length)

/-- The minutes of a zone behind its sign, up to the end. -/
def readOffset? (t : Text) : Option Int := do
  let (hours, t) ← takeNumber? 1 2 t
  match t with
  | [] => some (hours * 60 : Nat)
  | ':' :: t =>
    let (minutes, t) ← takeNumber? 2 2 t
    if t.isEmpty then some (hours * 60 + minutes : Nat) else none
  | _ => none

/-- The zone that a time ends with, if it has one; where neither zone nor end is, nothing is read. -/
def readZone? (t : Text) : Option (Option Int) :=
  if t.isEmpty then some none
  else match t.dropWhile isSpaceOrTab with
    | ['Z'] => some (some 0)
    | '+' :: rest => (readOffset? rest).map some
    | '-' :: rest => (readOffset? rest).map fun n => some (-n)
    | _ => none

def readClock? (t : Text) : Option Clock := do
  let (hour, t) ← takeNumber? 1 2 t
  let (minute, t) ← takeNumber? 2 2 (← after? [':'] t)
  let (second, t) ← takeNumber? 2 2 (← after? [':'] t)
  let (micro, t) := match t with
    | '.' :: t => (microOf (t.takeWhile isAsciiDigit), t.dropWhile isAsciiDigit)
    | t => (0, t)
  some ⟨hour, minute, second, micro, ← readZone? t⟩

/-- One newline may follow. -/
def readMoment? (t : Text) : Option Moment := do
  let t := if t.getLast? = some '\n' then t.dropLast else t
  let (m, rest) ← takeDay? t
  if rest.isEmpty then some m
  else some { m with clock := some (← readClock? (← skipTimeMark? rest)) }

def readTime (t : Text) : Except Fault Moment :=
  match readMoment? t with
  | none => .error .noSuchTime
  | some m => if m.isReal then .ok m else .error .noSuchDay

end EnvAudit.Yaml
