/-!
Dates of the Gregorian calendar and times of day, and the texts in which both are written.
-/
namespace WorkspaceImport.Calendar

def isLeapYear (year : Nat) : Bool :=
  year % 4 = 0 && (year % 100 ≠ 0 || year % 400 = 0)

def daysIn (year month : Nat) : Nat :=
  if month = 2 then (if isLeapYear year then 29 else 28)
  else if month = 4 ∨ month = 6 ∨ month = 9 ∨ month = 11 then 30 else 31

def padded (width n : Nat) : String :=
  let digits := toString n
  "".pushn '0' (width - digits.length) ++ digits

def dateText (year month day : Nat) : String :=
  padded 4 year ++ "-" ++ padded 2 month ++ "-" ++ padded 2 day

def timeText (hour minute second micros : Nat) : String :=
  padded 2 hour ++ ":" ++ padded 2 minute ++ ":" ++ padded 2 second ++
    (if micros = 0 then "" else "." ++ padded 6 micros)

structure Date where
  year : Int
  month : Nat
  day : Nat
  deriving DecidableEq

/-- The date so many days after the first of January 1970. Years are counted from March here, so that
the day that leap years add is the last one; the calendar repeats after 146097 days. -/
def Date.ofDays (days : Int) : Date :=
  let shifted := days + 719468
  let era := shifted.fdiv 146097
  let dayOfEra := (shifted - era * 146097).toNat
  let yearOfEra := (dayOfEra - dayOfEra / 1460 + dayOfEra / 36524 - dayOfEra / 146096) / 365
  let dayOfYear := dayOfEra - (365 * yearOfEra + yearOfEra / 4 - yearOfEra / 100)
  let marchMonth := (5 * dayOfYear + 2) / 153
  let month := if marchMonth < 10 then marchMonth + 3 else marchMonth - 9
  ⟨yearOfEra + era * 400 + (if month ≤ 2 then 1 else 0), month,
    dayOfYear - (153 * marchMonth + 2) / 5 + 1⟩

/-- The moment so many seconds and millionths after the beginning of 1970, in universal time. Only
years with one to four digits have a text. -/
def momentText? (seconds : Int) (micros : Nat) : Except Int String :=
  let date := Date.ofDays (seconds.fdiv 86400)
  let second := (seconds.fmod 86400).toNat
  if 1 ≤ date.year ∧ date.year ≤ 9999 then
    .ok (dateText date.year.toNat date.month date.day ++ "T" ++
      timeText (second / 3600) (second / 60 % 60) (second % 60) micros ++ "+00:00")
  else .error date.year

end WorkspaceImport.Calendar
