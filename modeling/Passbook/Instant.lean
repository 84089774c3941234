/-!
Points in time, counted in microseconds from the start of 1970 in universal time, and their text in
the calendar.
-/

namespace Passbook

structure Instant where
  micros : Int
deriving DecidableEq

namespace Instant

/-- Year, month and day of the day with this number. Years are counted from March, so that the leap
day is a year's last; 400 of them have 146097 days. -/
def calendarDay (day : Int) : Int × Nat × Nat :=
  let shifted := day + 719468
  let era := shifted / 146097
  let dayOfEra := (shifted % 146097).toNat
  let yearOfEra := (dayOfEra - dayOfEra / 1460 + dayOfEra / 36524 - dayOfEra / 146096) / 365
  let dayOfYear := dayOfEra - (365 * yearOfEra + yearOfEra / 4 - yearOfEra / 100)
  let shiftedMonth := (5 * dayOfYear + 2) / 153
  let month := if shiftedMonth < 10 then shiftedMonth + 3 else shiftedMonth - 9
  let year := yearOfEra + era * 400 + (if month ≤ 2 then 1 else 0)
  (year, month, dayOfYear - (153 * shiftedMonth + 2) / 5 + 1)

def padded (width n : Nat) : String :=
  let digits := Nat.toDigits 10 n
  String.ofList (List.replicate (width - digits.length) '0' ++ digits)

def microsPerDay : Int := 86400000000

def hasDate (t : Instant) : Bool :=
  let (year, _, _) := calendarDay (t.micros / microsPerDay)
  1 ≤ year && year ≤ 9999

def stamp (t : Instant) : String :=
  let (year, month, day) := calendarDay (t.micros / microsPerDay)
  let ofDay := (t.micros % microsPerDay).toNat
  let seconds := ofDay / 1000000
  let micros := ofDay % 1000000
  padded 4 year.toNat ++ "-" ++ padded 2 month ++ "-" ++ padded 2 day ++ "T" ++
    padded 2 (seconds / 3600) ++ ":" ++ padded 2 (seconds / 60 % 60) ++ ":" ++
    padded 2 (seconds % 60) ++ (if micros = 0 then "" else "." ++ padded 6 micros)

end Instant

end Passbook
