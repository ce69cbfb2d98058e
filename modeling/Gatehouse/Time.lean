import Gatehouse.Text.Basic

/-!
Points in time, as nanoseconds since the start of 1970, and lengths of time, with their texts: date and time of day in
UTC, and a number with a unit.
-/

namespace Gatehouse

/-- A point in time, in nanoseconds since the start of 1970. -/
abbrev Time := Int

namespace Time

def second : Int := 1000000000

/-- The last point in time that has a date: the end of the year 262142. -/
def last : Time := 8210266876799 * second + 999999999

/-- A date of the calendar. -/
structure Date where
  year : Int
  month : Nat
  day : Nat
  deriving DecidableEq

/-- The date of a day, counted from the first of January 1970. Years begin in March here, so that the
leap day comes last, and 400 years have 146097 days. -/
def Date.ofDays (days : Int) : Date :=
  let shifted := days + 719468
  let era := shifted.fdiv 146097
  let dayOfEra := (shifted - era * 146097).toNat
  let yearOfEra := (dayOfEra - dayOfEra / 1460 + dayOfEra / 36524 - dayOfEra / 146096) / 365
  let dayOfYear := dayOfEra - (365 * yearOfEra + yearOfEra / 4 - yearOfEra / 100)
  let monthFromMarch := (5 * dayOfYear + 2) / 153
  let month := if monthFromMarch < 10 then monthFromMarch + 3 else monthFromMarch - 9
  let year : Int := yearOfEra + era * 400
  ⟨if month ≤ 2 then year + 1 else year, month, dayOfYear - (153 * monthFromMarch + 2) / 5 + 1⟩

example : Date.ofDays 0 = ⟨1970, 1, 1⟩ := by decide
example : Date.ofDays 19782 = ⟨2024, 2, 29⟩ := by decide
example : Date.ofDays (-1) = ⟨1969, 12, 31⟩ := by decide

def padded (width n : Nat) : Text :=
  let digits := Text.ofNat n
  List.replicate (width - digits.length) '0' ++ digits

/-- The text of a fraction of a second: none, or three, six or nine digits. -/
def fraction (nanos : Nat) : Text :=
  if nanos = 0 then []
  else if nanos % 1000000 = 0 then '.' :: padded 3 (nanos / 1000000)
  else if nanos % 1000 = 0 then '.' :: padded 6 (nanos / 1000)
  else '.' :: padded 9 nanos

/-- The text of a year: four digits, or a sign and at least five. -/
def yearText (year : Int) : Text :=
  if 0 ≤ year ∧ year ≤ 9999 then padded 4 year.toNat
  else (if year < 0 then '-' else '+') :: padded 5 year.natAbs

/-- The text of a point in time, such as `2024-02-29T12:00:00.5Z` with a fraction of three digits. -/
def render (t : Time) : Text :=
  let seconds := t.fdiv second
  let nanos := (t - seconds * second).toNat
  let days := seconds.fdiv 86400
  let ofDay := (seconds - days * 86400).toNat
  let date := Date.ofDays days
  yearText date.year ++ "-" ++ padded 2 date.month ++ "-" ++ padded 2 date.day ++ "T" ++
    padded 2 (ofDay / 3600) ++ ":" ++ padded 2 (ofDay / 60 % 60) ++ ":" ++ padded 2 (ofDay % 60) ++
    fraction nanos ++ "Z"

end Time

/-- A length of time, in nanoseconds. -/
abbrev Duration := Nat

namespace Duration

def ofSeconds (n : Nat) : Duration := n * 1000000000

/-- A number with a fraction of so many digits, those apart that are zeros at its end, and a unit. -/
def scaled (whole part places : Nat) (unit : Text) : Text :=
  let digits := Text.trimEnd (· == '0') (Time.padded places part)
  Text.ofNat whole ++ (if digits = [] then [] else '.' :: digits) ++ unit

/-- The text of a length of time, in the largest unit of which it has one or more. -/
def render (d : Duration) : Text :=
  if 1000000000 ≤ d then scaled (d / 1000000000) (d % 1000000000) 9 "s"
  else if 1000000 ≤ d then scaled (d / 1000000) (d % 1000000) 6 "ms"
  else if 1000 ≤ d then scaled (d / 1000) (d % 1000) 3 "µs"
  else Text.ofNat d ++ "ns"

example : render (ofSeconds 60) = "60s" := by rfl
example : render 1500000 = "1.5ms" := by rfl

end Duration
end Gatehouse
