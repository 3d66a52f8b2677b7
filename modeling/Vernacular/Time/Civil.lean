/-!
# Civil time

An instant, counted in milliseconds from the epoch, split into the fields of
the proleptic Gregorian calendar in UTC: year, month, day, time of day,
weekday and day of the year. The conversion counts days in eras of 400
years, each of which has the same 146097 days.
-/

set_option autoImplicit false

namespace Vernacular

/-- An instant in UTC, split into calendar fields. -/
structure CivilTime where
  year : Int
  month : Nat
  day : Nat
  hour : Nat
  minute : Nat
  second : Nat
  millis : Nat
  weekday : Nat
  yearDay : Nat
  epochMillis : Int
deriving Inhabited, Repr

namespace CivilTime

/-- The days from the epoch to the first of a month, proleptic Gregorian. -/
def daysFromCivil (year : Int) (month day : Nat) : Int :=
  let y := if month ≤ 2 then year - 1 else year
  let era := (if y ≥ 0 then y else y - 399) / 400
  let yoe := y - era * 400
  let mp : Int := (month + 9) % 12
  let doy := (153 * mp + 2) / 5 + day - 1
  let doe := yoe * 365 + yoe / 4 - yoe / 100 + doy
  era * 146097 + doe - 719468

/-- The calendar fields of an instant given in milliseconds since the epoch. -/
def ofMillis (ms : Int) : CivilTime :=
  let days := ms / 86400000
  let rem := (ms % 86400000).toNat
  let z := days + 719468
  let era := (if z ≥ 0 then z else z - 146096) / 146097
  let doe := z - era * 146097
  let yoe := (doe - doe / 1460 + doe / 36524 - doe / 146096) / 365
  let doy := doe - (365 * yoe + yoe / 4 - yoe / 100)
  let mp := (5 * doy + 2) / 153
  let day := (doy - (153 * mp + 2) / 5 + 1).toNat
  let month := (if mp < 10 then mp + 3 else mp - 9).toNat
  let year := yoe + era * 400 + (if month ≤ 2 then 1 else 0)
  { year, month, day,
    hour := rem / 3600000, minute := rem / 60000 % 60, second := rem / 1000 % 60,
    millis := rem % 1000, weekday := ((days + 4) % 7).toNat,
    yearDay := (days - daysFromCivil year 1 1 + 1).toNat, epochMillis := ms }

end CivilTime

/-- Digits of a number, padded with zeros on the left to a width. -/
def zeroPadded (width n : Nat) : String :=
  let digits := toString n
  String.ofList (List.replicate (width - digits.length) '0') ++ digits

/-- The instant as a log line stamps it: date, time to the millisecond, and
`Z` for UTC. -/
def CivilTime.stamp (t : CivilTime) : String :=
  let year := if t.year < 0 then "-" ++ zeroPadded 4 t.year.natAbs else zeroPadded 4 t.year.toNat
  year ++ "-" ++ zeroPadded 2 t.month ++ "-" ++ zeroPadded 2 t.day ++ "T" ++
    zeroPadded 2 t.hour ++ ":" ++ zeroPadded 2 t.minute ++ ":" ++ zeroPadded 2 t.second ++ "." ++
    zeroPadded 3 t.millis ++ "Z"

end Vernacular
