/-!
Dates and times of day in the calendar that is in common use, reckoned back and forth without end,
in one zone without summer time.
-/
namespace BatchLaunch.Calendar

/-- A point in time: seconds since the beginning of 1970, and nanoseconds on top. -/
structure Moment where
  seconds : Int
  nanos : Nat
  deriving DecidableEq, Repr

structure Civil where
  year : Int
  month : Int
  day : Int
  hour : Int
  minute : Int
  second : Int
  deriving DecidableEq, Repr

def isLeap (year : Int) : Bool :=
  year.emod 4 = 0 && (year.emod 100 ≠ 0 || year.emod 400 = 0)

def monthLength (year month : Int) : Int :=
  if month = 2 then (if isLeap year then 29 else 28)
  else if [4, 6, 9, 11].contains month then 30 else 31

/-- The days from the beginning of 1970 to a date. Years are reckoned from March on, so that the day
that comes in leap years is the last one. -/
def daysTo (year month day : Int) : Int :=
  let year := if month ≤ 2 then year - 1 else year
  let era := year.fdiv 400
  let yearOfEra := year - era * 400
  let dayOfYear := (153 * (month + (if 2 < month then -3 else 9)) + 2) / 5 + day - 1
  era * 146097 + yearOfEra * 365 + yearOfEra / 4 - yearOfEra / 100 + dayOfYear - 719468

def dateAt (days : Int) : Int × Int × Int :=
  let days := days + 719468
  let era := days.fdiv 146097
  let dayOfEra := days - era * 146097
  let yearOfEra := (dayOfEra - dayOfEra / 1460 + dayOfEra / 36524 - dayOfEra / 146096) / 365
  let dayOfYear := dayOfEra - (365 * yearOfEra + yearOfEra / 4 - yearOfEra / 100)
  let place := (5 * dayOfYear + 2) / 153
  let month := if place < 10 then place + 3 else place - 9
  (yearOfEra + era * 400 + (if month ≤ 2 then 1 else 0), month,
    dayOfYear - (153 * place + 2) / 5 + 1)

def secondsPerDay : Int := 86400

def Civil.ofSeconds (seconds : Int) : Civil :=
  let days := seconds.fdiv secondsPerDay
  let left := seconds - days * secondsPerDay
  let (year, month, day) := dateAt days
  ⟨year, month, day, left / 3600, left / 60 % 60, left % 60⟩

def Civil.carried (civil : Civil) : Civil :=
  let months := civil.month - 1
  { civil with year := civil.year + months.fdiv 12, month := months.emod 12 + 1 }

def Civil.toSeconds (civil : Civil) : Int :=
  let civil := civil.carried
  (daysTo civil.year civil.month 1 + civil.day - 1) * secondsPerDay + civil.hour * 3600 +
    civil.minute * 60 + civil.second

def Civil.weekday (civil : Civil) : Int := (daysTo civil.year civil.month civil.day + 4).emod 7

def Civil.dayOfYear (civil : Civil) : Int :=
  daysTo civil.year civil.month civil.day - daysTo civil.year 1 1

def Civil.isProper (civil : Civil) : Bool :=
  1 ≤ civil.month && civil.month ≤ 12 && 1 ≤ civil.day &&
    civil.day ≤ monthLength civil.year civil.month && 0 ≤ civil.hour && civil.hour < 24 &&
    0 ≤ civil.minute && civil.minute < 60 && 0 ≤ civil.second && civil.second ≤ 60

def monthNames : List String := ["January", "February", "March", "April", "May", "June", "July",
  "August", "September", "October", "November", "December"]

def dayNames : List String := ["Sunday", "Monday", "Tuesday", "Wednesday", "Thursday", "Friday",
  "Saturday"]

def Civil.week (civil : Civil) : Int × Int :=
  let fromMonday := (civil.weekday + 6) % 7
  let thursday := dateAt (daysTo civil.year civil.month civil.day - fromMonday + 3)
  let first := daysTo thursday.1 1 1
  let place := daysTo thursday.1 thursday.2.1 thursday.2.2 - first
  (thursday.1, place / 7 + 1)

end BatchLaunch.Calendar
