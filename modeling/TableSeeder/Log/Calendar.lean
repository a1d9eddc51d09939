import TableSeeder.Number.Binary

/-! Date and time of day of an instant, counted in seconds from the beginning of 1970 in UTC. -/

namespace TableSeeder.Log

structure Date where
  year : Int
  month : Nat
  day : Nat
  deriving DecidableEq

/-- Years begin in March here, so that the leap day is the last; `day` counts from 0000-03-01. -/
def Date.ofDay (day : Int) : Date :=
  let era := day / 146097
  let d := (day % 146097).toNat
  let y := (d - d / 1460 + d / 36524 - d / 146096) / 365
  let inYear := d - (365 * y + y / 4 - y / 100)
  let m := (5 * inYear + 2) / 153
  let month := if m < 10 then m + 3 else m - 9
  ⟨y + era * 400 + (if month ≤ 2 then 1 else 0), month, inYear - (153 * m + 2) / 5 + 1⟩

def twoDigits (n : Nat) : String := if n < 10 then "0" ++ toString n else toString n

inductive ClockError where
  | notNumber
  | infinite
  | beyondCount
  | beyondDates
  | beyondYears
  deriving DecidableEq

def ClockError.title : ClockError → String
  | notNumber => "ValueError"
  | beyondDates => "OSError"
  | infinite | beyondCount | beyondYears => "OverflowError"

def ClockError.message : ClockError → String
  | notNumber => "cannot convert float NaN to integer"
  | infinite => "cannot convert float infinity to integer"
  | beyondCount => "timestamp out of range for platform time_t"
  | beyondDates => "[Errno 75] Value too large for defined data type"
  | beyondYears => "signed integer is greater than maximum"

def wholeSeconds (x : Float) : Except ClockError Int :=
  match Binary.ofFloat x with
  | .nan => .error .notNumber
  | .infinite _ => .error .infinite
  | .finite negative m e =>
    let n := Binary.truncated negative m e
    .ok (if negative && !Binary.isWhole m e then n - 1 else n)

def yearCount (year : Int) : Int := year - 1900

/-- `year-month-day hour:minute:second`. Seconds are counted in 64 bits and years in 32. -/
def stamp (seconds : Int) : Except ClockError String :=
  let date := Date.ofDay (seconds / 86400 + 719468)
  let s := (seconds % 86400).toNat
  let most : Int := twoTo 31
  if seconds < -(twoTo 63 : Int) ∨ (twoTo 63 : Int) ≤ seconds then .error .beyondCount
  else if yearCount date.year < -most ∨ most ≤ yearCount date.year then .error .beyondDates
  else if most ≤ date.year then .error .beyondYears
  else
    .ok (toString date.year ++ "-" ++ twoDigits date.month ++ "-" ++ twoDigits date.day ++ " " ++
      twoDigits (s / 3600) ++ ":" ++ twoDigits (s / 60 % 60) ++ ":" ++ twoDigits (s % 60))

end TableSeeder.Log
