/-!
# Time stamps

A moment of the civil calendar in UTC, written with three places of seconds, such as
`2024-05-01T10:00:00.000Z`. The calendar repeats every 400 years; a year is counted from March,
so that the leap day comes last. The text has 24 characters up to the year 9999.
-/
namespace ProxyWarden.Stamp

structure Date where
  year : Nat
  month : Nat
  day : Nat
deriving DecidableEq, Repr

/-- The date of a day counted from 1 January 1970. -/
def dateOfDay (days : Nat) : Date :=
  let z := days + 719468
  let era := z / 146097
  let dayOfEra := z % 146097
  let yearOfEra := (dayOfEra - dayOfEra / 1460 + dayOfEra / 36524 - dayOfEra / 146096) / 365
  let dayOfYear := dayOfEra - (365 * yearOfEra + yearOfEra / 4 - yearOfEra / 100)
  let m := (5 * dayOfYear + 2) / 153
  let month := if m < 10 then m + 3 else m - 9
  { year := yearOfEra + era * 400 + (if month ≤ 2 then 1 else 0)
    month := month
    day := dayOfYear - (153 * m + 2) / 5 + 1 }

/-- Decimal digits, filled up with zeros on the left. -/
def padded (width n : Nat) : String :=
  let ds := Nat.toDigits 10 n
  String.ofList (List.replicate (width - ds.length) '0' ++ ds)

/-- The stamp of a moment in milliseconds since 1 January 1970. -/
def text (ms : Nat) : String :=
  let date := dateOfDay (ms / 86400000)
  let ofDay := ms % 86400000
  padded 4 date.year ++ "-" ++ padded 2 date.month ++ "-" ++ padded 2 date.day ++ "T"
    ++ padded 2 (ofDay / 3600000) ++ ":" ++ padded 2 (ofDay / 60000 % 60) ++ ":"
    ++ padded 2 (ofDay / 1000 % 60) ++ "." ++ padded 3 (ofDay % 1000) ++ "Z"

end ProxyWarden.Stamp
