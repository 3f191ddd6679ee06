import EyesFree.Number.Text

namespace EyesFree

/-! Moments of universal time in words. -/

structure CalendarDay where
  year : Nat
  month : Nat
  day : Nat
deriving DecidableEq, Repr

/-- The calendar day that is so many days after the first day of 1970. Years are counted from March
here, so that the leap day is the last one of a year, in eras of four hundred years. -/
def CalendarDay.ofDays (days : Nat) : CalendarDay :=
  let shifted := days + 719468
  let era := shifted / 146097
  let dayOfEra := shifted % 146097
  let yearOfEra := (dayOfEra - dayOfEra / 1460 + dayOfEra / 36524 - dayOfEra / 146096) / 365
  let dayOfYear := dayOfEra - (365 * yearOfEra + yearOfEra / 4 - yearOfEra / 100)
  let shiftedMonth := (5 * dayOfYear + 2) / 153
  let month := if shiftedMonth < 10 then shiftedMonth + 3 else shiftedMonth - 9
  { year := era * 400 + yearOfEra + if month ≤ 2 then 1 else 0
    month
    day := dayOfYear - (153 * shiftedMonth + 2) / 5 + 1 }

def padded (width number : Nat) : String :=
  let digits := Decimal.digits number
  String.ofList (Decimal.toChars (List.replicate (width - digits.length) .zero ++ digits))

/-- The date and time of day that is so many nanoseconds after the start of 1970. -/
def describeMoment (nanoseconds : Nat) : String :=
  let seconds := nanoseconds / 1000000000
  let day := CalendarDay.ofDays (seconds / 86400)
  let date := s!"{padded 4 day.year}-{padded 2 day.month}-{padded 2 day.day}"
  let hour := seconds / 3600 % 24
  let minute := seconds / 60 % 60
  let time := s!"{padded 2 hour}:{padded 2 minute}:{padded 2 (seconds % 60)}"
  s!"{date}T{time}.{padded 9 (nanoseconds % 1000000000)}+00:00"

end EyesFree
