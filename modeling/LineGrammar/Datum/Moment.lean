/-
Calendar dates, alone or with a time of day, as data files may hold them. They are shown and compared.
-/
import LineGrammar.Text.Digits

namespace LineGrammar

/-- A time of day; `offset` is the distance from universal time in minutes, where it is known. -/
structure Clock where
  hour : Nat
  minute : Nat
  second : Nat
  micro : Nat
  offset : Option Int
  deriving DecidableEq

/-- A date, or a date with a time of day. -/
structure Moment where
  year : Nat
  month : Nat
  day : Nat
  clock : Option Clock
  deriving DecidableEq

/-- a number filled with zeros to a width -/
def padded (width n : Nat) : String :=
  let digits := natText n
  String.ofList (List.replicate (width - digits.length) '0' ++ digits)

namespace Moment

def leapYear (year : Nat) : Bool :=
  year % 4 == 0 && (year % 100 != 0 || year % 400 == 0)

def daysIn (year month : Nat) : Nat :=
  if month == 2 then (if leapYear year then 29 else 28)
  else if month == 4 || month == 6 || month == 9 || month == 11 then 30 else 31

/-- whether there is such a date and such a time -/
def exists? (m : Moment) : Bool :=
  1 ≤ m.year && 1 ≤ m.month && m.month ≤ 12 && 1 ≤ m.day && m.day ≤ daysIn m.year m.month &&
    match m.clock with
    | none => true
    | some t => t.hour < 24 && t.minute < 60 && t.second < 60 &&
        match t.offset with
        | none => true
        | some o => o.natAbs < 1440

/-! ## Comparison -/

/-- how many days of the calendar are before a date -/
def daysBefore (m : Moment) : Nat :=
  let y := m.year - 1
  let months := (List.range (m.month - 1)).map (fun i => daysIn m.year (i + 1))
  y * 365 + y / 4 - y / 100 + y / 400 + months.foldl Nat.add 0 + (m.day - 1)

/-- the millionths of a second up to a time of day on a date, as the clock there shows them -/
def micros (m : Moment) (t : Clock) : Int :=
  ((((m.daysBefore * 24 + t.hour) * 60 + t.minute) * 60 + t.second) * 1000000 + t.micro : Nat)

/-- The instant of universal time, where the distance from it is known. -/
def instant? (m : Moment) : Option Int :=
  m.clock.bind (fun t => t.offset.map (fun offset => m.micros t - offset * 60000000))

/-- equality: by the instant if both have one -/
def same (m k : Moment) : Bool :=
  match m.instant?, k.instant? with
  | some i, some j => i == j
  | _, _ => m == k

/-! ## Text -/

/-- the distance from universal time, as hours and minutes -/
def offsetText (offset : Int) : String :=
  let sign := if offset < 0 then "-" else "+"
  s!"{sign}{padded 2 (offset.natAbs / 60)}:{padded 2 (offset.natAbs % 60)}"

def clockText (t : Clock) : String :=
  let fraction := if t.micro == 0 then "" else s!".{padded 6 t.micro}"
  let offset := (t.offset.map offsetText).getD ""
  s!"{padded 2 t.hour}:{padded 2 t.minute}:{padded 2 t.second}{fraction}{offset}"

/-- the date, and after a blank the time if there is one -/
def text (m : Moment) : String :=
  let date := s!"{padded 4 m.year}-{padded 2 m.month}-{padded 2 m.day}"
  match m.clock with
  | none => date
  | some t => s!"{date} {clockText t}"

/-- the span of a distance from universal time, in whole days and the seconds after them -/
def spanText (offset : Int) : String :=
  let days := Int.fdiv offset 1440
  let seconds := Int.fmod offset 1440 * 60
  let parts := (if days == 0 then [] else [s!"days={days}"]) ++ (if seconds == 0 then [] else [s!"seconds={seconds}"])
  "datetime.timedelta(" ++ ", ".intercalate parts ++ ")"

def zoneText (offset : Int) : String :=
  if offset == 0 then "datetime.timezone.utc" else s!"datetime.timezone({spanText offset})"

/-- the form inside lists and maps: the parts of the date, with trailing zeros of the time left out -/
def inner (m : Moment) : String :=
  let date := [toString m.year, toString m.month, toString m.day]
  match m.clock with
  | none => "datetime.date(" ++ ", ".intercalate date ++ ")"
  | some t =>
    let tail := if t.micro != 0 then [t.second, t.micro] else if t.second != 0 then [t.second] else []
    let zone := (t.offset.map (fun o => [s!"tzinfo={zoneText o}"])).getD []
    let parts := date ++ ([t.hour, t.minute] ++ tail).map toString ++ zone
    "datetime.datetime(" ++ ", ".intercalate parts ++ ")"

end Moment

end LineGrammar
