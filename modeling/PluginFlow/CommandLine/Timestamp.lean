import PluginFlow.Number.Layout

/-!
Times as texts: date and time of day in UTC with milliseconds, counted from the first day of 1970.
-/

namespace PluginFlow.CommandLine

/-- The date of a day counted from the first of January 1970, with the year, the month and the
day. Years are counted from March on, so that a leap day ends one. -/
def civilDate (days : Nat) : Nat × Nat × Nat :=
  let shifted := days + 719468
  let era := shifted / 146097
  let dayOfEra := shifted % 146097
  let yearOfEra := (dayOfEra - dayOfEra / 1460 + dayOfEra / 36524 - dayOfEra / 146096) / 365
  let dayOfYear := dayOfEra - (365 * yearOfEra + yearOfEra / 4 - yearOfEra / 100)
  let monthFromMarch := (5 * dayOfYear + 2) / 153
  let day := dayOfYear - (153 * monthFromMarch + 2) / 5 + 1
  let month := if monthFromMarch < 10 then monthFromMarch + 3 else monthFromMarch - 9
  let year := yearOfEra + era * 400
  (if month ≤ 2 then year + 1 else year, month, day)

def padded (width n : Nat) : String :=
  let digits := Number.intText n
  String.ofList (List.replicate (width - digits.length) '0') ++ digits

def timestampText (ms : Nat) : String :=
  let seconds := ms / 1000
  let (year, month, day) := civilDate (seconds / 86400)
  padded 4 year ++ "-" ++ padded 2 month ++ "-" ++ padded 2 day ++ "T" ++
    padded 2 (seconds / 3600 % 24) ++ ":" ++ padded 2 (seconds / 60 % 60) ++ ":" ++
    padded 2 (seconds % 60) ++ "." ++ padded 3 (ms % 1000) ++ "Z"

example : timestampText 0 = "1970-01-01T00:00:00.000Z" := by decide +kernel

example : timestampText 951782400123 = "2000-02-29T00:00:00.123Z" := by decide +kernel

example : timestampText 1735689599999 = "2024-12-31T23:59:59.999Z" := by decide +kernel

end PluginFlow.CommandLine
