import Recommend.Number.Decimal

/-!
Time stamps: a moment of universal time as `2024-02-29T12:00:00Z`.

Years are counted from March on, so that the leap day is the last day of its year; four
hundred years have 146097 days.
-/

namespace Recommend.Stamp

/-- A day of the calendar. -/
structure Day where
  year : Nat
  month : Nat
  day : Nat
  deriving DecidableEq

/-- The day that comes so many days after the first of January 1970. -/
def dayOf (days : Nat) : Day :=
  -- counted from the first of March of the year 0
  let n := days + 719468
  let inEra := n % 146097
  -- the leap days are taken out before dividing
  let year := (inEra - inEra / 1460 + inEra / 36524 - inEra / 146096) / 365
  let inYear := inEra - (365 * year + year / 4 - year / 100)
  -- five months from March on have 153 days
  let month := (5 * inYear + 2) / 153
  let day := inYear - (153 * month + 2) / 5 + 1
  -- months counted from January again
  let january := if month < 10 then month + 3 else month - 9
  ⟨n / 146097 * 400 + year + (if january ≤ 2 then 1 else 0), january, day⟩

/-- A number with zeros in front up to a width. -/
def padded (width n : Nat) : String :=
  let digits := Decimal.natText n
  String.ofList (List.replicate (width - digits.length) '0' ++ digits)

/-- The stamp of a moment, given in seconds after the beginning of 1970. -/
def ofSeconds (seconds : Nat) : String :=
  let d := dayOf (seconds / 86400)
  let s := seconds % 86400
  padded 4 d.year ++ "-" ++ padded 2 d.month ++ "-" ++ padded 2 d.day ++ "T"
    ++ padded 2 (s / 3600) ++ ":" ++ padded 2 (s / 60 % 60)
    ++ ":" ++ padded 2 (s % 60) ++ "Z"

end Recommend.Stamp
