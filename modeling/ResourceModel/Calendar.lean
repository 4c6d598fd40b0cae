set_option autoImplicit false

/-! # The calendar

The year of a moment that is told in seconds since the start of the year 1970, by the Gregorian
calendar. Years are counted from March, so that the day that leap years add comes last. -/

namespace ResourceModel

namespace Calendar

/-- The days from the first of March of the year 0 to the start of the year 1970. -/
def epochDays : Nat := 719468

/-- The days of 400 years. -/
def daysOfEra : Nat := 146097

/-- The year of a day, counted from the first of March of the year 0. -/
def yearOfDay (day : Nat) : Nat :=
  let inEra := day % daysOfEra
  let years := (inEra - inEra / 1460 + inEra / 36524 - inEra / 146096) / 365
  let inYear := inEra - (365 * years + years / 4 - years / 100)
  let marchYear := day / daysOfEra * 400 + years
  if inYear < 306 then marchYear else marchYear + 1

/-- The year of a moment, in seconds since the start of the year 1970. -/
def yearOfSeconds (seconds : Nat) : Nat :=
  yearOfDay (seconds / 86400 + epochDays)

end Calendar

end ResourceModel
