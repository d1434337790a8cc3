import ChrootScan.Text.Fields

/-!
# The time of day

Logs show the time as `YYYY-MM-DD HH:MM:SS`. Here it is made out of seconds since the beginning of
1970, by the Gregorian calendar. Days are counted from a first of March, so that a leap day is the last
one of its year.
-/

namespace ChrootScan.Clock

/-- The days from 1 March of the year 0 to the beginning of 1970. -/
def epochDay : Nat := 719468

/-- The days of 400 years, after which the calendar repeats itself. -/
def eraDays : Nat := 146097

/-- Year, month and day of a number of days since the beginning of 1970. -/
def date (days : Nat) : Nat × Nat × Nat :=
  let day := days + epochDay
  let inEra := day % eraDays
  let year := (inEra - inEra / 1460 + inEra / 36524 - inEra / 146096) / 365
  let inYear := inEra - (365 * year + year / 4 - year / 100)
  let month := (5 * inYear + 2) / 153
  let inMonth := inYear - (153 * month + 2) / 5 + 1
  let shifted := year + 400 * (day / eraDays)
  if month < 10 then (shifted, month + 3, inMonth) else (shifted + 1, month - 9, inMonth)

/-- A number in at least `width` digits. -/
def padded (width n : Nat) : String :=
  let digits := Nat.toDigits 10 n
  String.ofList (List.replicate (width - digits.length) '0' ++ digits)

/-- The time that a number of seconds since the beginning of 1970 stands for. -/
def text (seconds : Nat) : String :=
  let (year, month, day) := date (seconds / 86400)
  let inDay := seconds % 86400
  Text.join "-" [padded 4 year, padded 2 month, padded 2 day] ++ " "
    ++ Text.join ":" [padded 2 (inDay / 3600), padded 2 (inDay / 60 % 60), padded 2 (inDay % 60)]

example : text 0 = "1970-01-01 00:00:00" := by decide +kernel

example : text 951782399 = "2000-02-28 23:59:59" := by decide +kernel

example : text 951868799 = "2000-02-29 23:59:59" := by decide +kernel

end ChrootScan.Clock
