/-!
# The calendar

Days are counted from the first of January 1970, by the rules that hold since 1582, also
for the time before.  A date is a year, a month and a day; `civilOfDays` and
`daysOfCivil` lead from one to the other.
-/

namespace ComponentReference.Calendar

/-- A day of a year. -/
structure Civil where
  year : Int
  month : Nat
  day : Nat
deriving DecidableEq, Repr

/-- The days of four hundred years. -/
def eraDays : Nat := 146097

/-- The number of the day on which a date falls.  Days and months that are too great
go on into the next ones. -/
def daysOfCivil (year : Int) (month day : Int) : Int :=
  let month := month - 1
  let year := year + month.fdiv 12
  let month := month.fmod 12
  -- the year begins in March here
  let (year, month) := if month < 2 then (year - 1, month + 10) else (year, month - 2)
  let era := year.fdiv 400
  let ofEra := year.fmod 400
  let ofYear := (153 * month + 2).fdiv 5 + day - 1
  era * eraDays + ofEra * 365 + ofEra.fdiv 4 - ofEra.fdiv 100 + ofYear - 719468

/-- The date of a day. -/
def civilOfDays (days : Int) : Civil :=
  let days := days + 719468
  let era := days.fdiv eraDays
  let ofEra := (days.fmod eraDays).toNat
  let year := (ofEra - ofEra / 1460 + ofEra / 36524 - ofEra / 146096) / 365
  let ofYear := ofEra - (365 * year + year / 4 - year / 100)
  let month := (5 * ofYear + 2) / 153
  let day := ofYear - (153 * month + 2) / 5 + 1
  let civilMonth := if month < 10 then month + 3 else month - 9
  ⟨era * 400 + year + (if civilMonth ≤ 2 then 1 else 0), civilMonth, day⟩

/-- The day of the week, from zero for Sunday. -/
def weekday (days : Int) : Nat :=
  ((days + 4).fmod 7).toNat

/-- The day of the year, from zero. -/
def dayOfYear (days : Int) : Nat :=
  (days - daysOfCivil (civilOfDays days).year 1 1).toNat

/-- The year and the number of the week in which a day lies; weeks begin on Monday, and
the first one of a year is that with its first Thursday. -/
def weekOf (days : Int) : Int × Nat :=
  let thursday := days + 3 - ((days + 3).fmod 7)
  let year := (civilOfDays thursday).year
  (year, dayOfYear thursday / 7 + 1)

/-- The names of the months. -/
def months : List String :=
  ["January", "February", "March", "April", "May", "June", "July", "August", "September",
    "October", "November", "December"]

/-- The names of the days of the week. -/
def weekdays : List String :=
  ["Sunday", "Monday", "Tuesday", "Wednesday", "Thursday", "Friday", "Saturday"]

end ComponentReference.Calendar
