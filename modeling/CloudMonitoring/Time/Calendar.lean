/-!
Civil dates from day numbers, in the proleptic Gregorian calendar. Years are counted from March, so
that the leap day is the last day of its year, and grouped in eras of 400 years or 146097 days.
-/

namespace CloudMonitoring

structure CivilDate where
  year : Int
  month : Int
  day : Int
deriving DecidableEq, Repr

namespace CivilDate

/-- Days from the first of March of the year zero to the epoch. -/
def epochOffset : Int := 719468

def yearOfEra (dayOfEra : Int) : Int :=
  (dayOfEra - dayOfEra / 1460 + dayOfEra / 36524 - dayOfEra / 146096) / 365

def daysBeforeYear (yearOfEra : Int) : Int :=
  365 * yearOfEra + yearOfEra / 4 - yearOfEra / 100

/-- Days of a year from March on before a month, where March is month zero. -/
def daysBeforeMonth (month : Int) : Int :=
  (153 * month + 2) / 5

def ofDays (days : Int) : CivilDate :=
  let shifted := days + epochOffset
  let era := shifted / 146097
  let dayOfEra := shifted % 146097
  let year := yearOfEra dayOfEra
  let dayOfYear := dayOfEra - daysBeforeYear year
  let marchMonth := (5 * dayOfYear + 2) / 153
  let month := if marchMonth < 10 then marchMonth + 3 else marchMonth - 9
  { year := year + 400 * era + (if month ≤ 2 then 1 else 0)
    month := month
    day := dayOfYear - daysBeforeMonth marchMonth + 1 }

def toDays (date : CivilDate) : Int :=
  let year := if date.month ≤ 2 then date.year - 1 else date.year
  let marchMonth := if 3 ≤ date.month then date.month - 3 else date.month + 9
  let era := year / 400
  era * 146097 + daysBeforeYear (year % 400) + daysBeforeMonth marchMonth + date.day - 1
    - epochOffset

example : ofDays 0 = ⟨1970, 1, 1⟩ := by decide

example : ofDays (-719529) = ⟨-1, 12, 31⟩ := by decide

example : ofDays 11016 = ⟨2000, 2, 29⟩ := by decide

end CivilDate

end CloudMonitoring
