import WorkspaceImport.Calendar
/-!
Dates, dates with a time of day, and times that know how far their clock is from universal time. A
moment has a plain text, and a longer one that says what its numbers mean.
-/
namespace WorkspaceImport

structure TimeOfDay where
  hour : Nat
  minute : Nat
  second : Nat
  micros : Nat
  deriving DecidableEq

structure Moment where
  year : Nat
  month : Nat
  day : Nat
  time : Option TimeOfDay
  offset : Option Int
  deriving DecidableEq

namespace Moment

open Calendar

def typeName (m : Moment) : String :=
  if m.time.isSome then "datetime" else "date"

def offsetText (minutes : Int) : String :=
  (if minutes < 0 then "-" else "+") ++ padded 2 (minutes.natAbs / 60) ++ ":" ++
    padded 2 (minutes.natAbs % 60)

def text (m : Moment) : String :=
  dateText m.year m.month m.day ++
    match m.time with
    | none => ""
    | some t =>
      " " ++ timeText t.hour t.minute t.second t.micros ++ m.offset.elim "" offsetText

/-- A number of minutes as a duration inside a message: whole days, and the seconds after them. -/
def durationText (minutes : Int) : String :=
  let seconds := minutes * 60
  let days := seconds.fdiv 86400
  let rest := seconds.fmod 86400
  let parts := (if days = 0 then [] else ["days=" ++ toString days]) ++
    (if rest = 0 then [] else ["seconds=" ++ toString rest])
  "datetime.timedelta(" ++ String.intercalate ", " parts ++ ")"

def zoneText (minutes : Int) : String :=
  if minutes = 0 then "datetime.timezone.utc"
  else "datetime.timezone(" ++ durationText minutes ++ ")"

/-- The numbers of a time of day; those at the end that are zero are left out, hours and minutes
apart. -/
def timeNumbers (t : TimeOfDay) : List Nat :=
  [t.hour, t.minute] ++
    (if t.micros ≠ 0 then [t.second, t.micros] else if t.second ≠ 0 then [t.second] else [])

def shown (m : Moment) : String :=
  let numbers := [m.year, m.month, m.day] ++ m.time.elim [] timeNumbers
  let zone := m.offset.elim [] fun minutes => ["tzinfo=" ++ zoneText minutes]
  "datetime." ++ m.typeName ++ "(" ++
    String.intercalate ", " (numbers.map toString ++ zone) ++ ")"

def dayNumber (m : Moment) : Int :=
  let shift : Int := if m.month ≤ 2 then 1 else 0
  let year := (m.year : Int) - shift
  let marchMonth := if m.month ≤ 2 then m.month + 9 else m.month - 3
  365 * year + year.fdiv 4 - year.fdiv 100 + year.fdiv 400 + (153 * marchMonth + 2) / 5 + m.day - 1 -
    719468

/-- Millionths of a second in universal time, for a moment that knows its offset. -/
def instant? (m : Moment) : Option Int :=
  match m.time, m.offset with
  | some t, some minutes =>
    let seconds := m.dayNumber * 86400 + t.hour * 3600 + t.minute * 60 + t.second - minutes * 60
    some (seconds * 1000000 + t.micros)
  | _, _ => none

/-- Whether two moments are the same: those that know their offsets are compared in universal time. -/
def same (m n : Moment) : Bool :=
  match m.instant?, n.instant? with
  | some i, some j => i == j
  | none, none => m == n
  | _, _ => false

end Moment

end WorkspaceImport
