import EnvAudit.Text.Basic
/-!
# Days and times

A moment is a day of the calendar or a time on one.  A time may have a zone: the minutes by which its clock is ahead
of the common clock.  Two times with zones are the same when the common clock shows the same, whatever their own
clocks show.
-/
namespace EnvAudit

structure Clock where
  hour : Nat
  minute : Nat
  second : Nat
  micro : Nat
  zone : Option Int
  deriving DecidableEq, Repr

structure Moment where
  year : Nat
  month : Nat
  day : Nat
  clock : Option Clock
  deriving DecidableEq, Repr

/-! ## The calendar -/

def isLeapYear (year : Nat) : Bool := year % 4 = 0 && (year % 100 ≠ 0 || year % 400 = 0)

def daysIn (year month : Nat) : Nat :=
  if month = 2 then (if isLeapYear year then 29 else 28) else if [4, 6, 9, 11].contains month then 30 else 31

/-- The days of the months before a month. -/
def daysBefore (year : Nat) : Nat → Nat
  | 0 => 0
  | month + 1 => daysBefore year month + (if month = 0 then 0 else daysIn year month)

/-- The number of a day, counted from the first day of the first year. -/
def dayNumber (year month day : Nat) : Nat :=
  let past := year - 1
  365 * past + past / 4 - past / 100 + past / 400 + daysBefore year month + day

def minutesInDay : Nat := 1440

def Clock.isReal (c : Clock) : Bool :=
  c.hour < 24 && c.minute < 60 && c.second < 60 && c.zone.all fun z => z.natAbs < minutesInDay

/-- Whether the calendar has the day and the clock the time. -/
def Moment.isReal (m : Moment) : Bool :=
  1 ≤ m.year && 1 ≤ m.month && m.month ≤ 12 && 1 ≤ m.day && m.day ≤ daysIn m.year m.month &&
    m.clock.all Clock.isReal

/-- The minutes that the common clock counts, for a time with a zone. -/
def Moment.commonMinutes (m : Moment) (c : Clock) (zone : Int) : Int :=
  ((dayNumber m.year m.month m.day * minutesInDay + c.hour * 60 + c.minute : Nat) : Int) - zone

def Moment.same (a b : Moment) : Bool :=
  match a.clock, b.clock with
  | some c, some d =>
    match c.zone, d.zone with
    | some y, some z => a.commonMinutes c y = b.commonMinutes d z && c.second = d.second && c.micro = d.micro
    | _, _ => a = b
  | _, _ => a = b

/-! ## On its own

A day is written as its three numbers, largest first; a time follows after a space. -/

/-- The last `width` decimal digits of a number. -/
def decimalDigits (width n : Nat) : Text :=
  (List.range width).reverse.map fun i => Char.ofNat (48 + n / Nat.pow 10 i % 10)

def zoneText (zone : Int) : Text :=
  let n := zone.natAbs
  (if zone < 0 then '-' else '+') :: decimalDigits 2 (n / 60) ++ ':' :: decimalDigits 2 (n % 60)

def Clock.text (c : Clock) : Text :=
  decimalDigits 2 c.hour ++ ':' :: decimalDigits 2 c.minute ++ ':' :: decimalDigits 2 c.second ++
    (if c.micro = 0 then [] else '.' :: decimalDigits 6 c.micro) ++ c.zone.elim [] zoneText

def Moment.text (m : Moment) : Text :=
  decimalDigits 4 m.year ++ '-' :: decimalDigits 2 m.month ++ '-' :: decimalDigits 2 m.day ++
    m.clock.elim [] fun c => ' ' :: c.text

/-! ## Inside a message

There its parts are listed; seconds and smaller parts only where they are not zero. -/

/-- A zone by the whole days and the seconds that it is ahead. -/
def shownZone (zone : Int) : Text :=
  if zone = 0 then "datetime.timezone.utc".toList
  else
    let seconds := zone * 60
    let (days, rest) := (seconds / 86400, seconds % 86400)
    let parts := (if days = 0 then [] else ["days=".toList ++ decimalInt days]) ++
      (if rest = 0 then [] else ["seconds=".toList ++ decimalInt rest])
    "datetime.timezone(datetime.timedelta(".toList ++ joinWith ", ".toList parts ++ "))".toList

def Clock.shownParts (c : Clock) : List Text :=
  let small := if c.micro ≠ 0 then [c.second, c.micro] else if c.second ≠ 0 then [c.second] else []
  (c.hour :: c.minute :: small).map decimal ++ c.zone.toList.map fun z => "tzinfo=".toList ++ shownZone z

def Moment.shown (m : Moment) : Text :=
  let day := [m.year, m.month, m.day].map decimal
  match m.clock with
  | none => "datetime.date(".toList ++ joinWith ", ".toList day ++ [')']
  | some c => "datetime.datetime(".toList ++ joinWith ", ".toList (day ++ c.shownParts) ++ [')']

end EnvAudit
