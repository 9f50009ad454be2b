/-!
# The calendar

Days are counted from 1 January 1970 in the proleptic Gregorian calendar. For
the count a year begins in March, so that the leap day is its last day and the
months before it have fixed lengths; four hundred such years, an era, always
have the same number of days.

## Main definitions

* `Time.Date` — year, month and day
* `Time.Date.IsValid` — the day exists
* `Time.Date.toDays`, `Time.Date.ofDays` — a date as a count of days
-/

namespace CpuAlert.Time

/-- A day of the proleptic Gregorian calendar. -/
structure Date where
  year : Int
  month : Nat
  day : Nat
  deriving DecidableEq, Repr

/-- The year has a 29 February. -/
def isLeapYear (year : Int) : Bool :=
  year % 4 == 0 && (year % 100 != 0 || year % 400 == 0)

/-- The number of days of a month. -/
def daysInMonth (year : Int) (month : Nat) : Nat :=
  if month = 2 then (if isLeapYear year then 29 else 28)
  else if month = 4 ∨ month = 6 ∨ month = 9 ∨ month = 11 then 30
  else 31

/-- The date names a day that exists. -/
def Date.IsValid (d : Date) : Prop :=
  1 ≤ d.month ∧ d.month ≤ 12 ∧ 1 ≤ d.day ∧ d.day ≤ daysInMonth d.year d.month

instance (d : Date) : Decidable d.IsValid :=
  inferInstanceAs (Decidable (_ ∧ _ ∧ _ ∧ _))

/-- The days of an era of four hundred years. -/
def daysPerEra : Int := 146097

/-- The days from 1 March of the year zero to 1 January 1970. -/
def epochOffset : Int := 719468

/-- The number of days from 1 January 1970 to the date. -/
def Date.toDays (d : Date) : Int :=
  let year := if d.month ≤ 2 then d.year - 1 else d.year
  let era := year / 400
  let yearOfEra := year % 400
  -- five months from March on always have 153 days
  let dayOfYear : Int := (153 * ((d.month + 9) % 12 : Nat) + 2) / 5 + d.day - 1
  era * daysPerEra + yearOfEra * 365 + yearOfEra / 4 - yearOfEra / 100 + dayOfYear - epochOffset

/-- The date a number of days after 1 January 1970. -/
def Date.ofDays (days : Int) : Date :=
  let shifted := days + epochOffset
  let era := shifted / daysPerEra
  let dayOfEra := (shifted % daysPerEra).toNat
  let yearOfEra := (dayOfEra - dayOfEra / 1460 + dayOfEra / 36524 - dayOfEra / 146096) / 365
  let dayOfYear := dayOfEra - (365 * yearOfEra + yearOfEra / 4 - yearOfEra / 100)
  let fromMarch := (5 * dayOfYear + 2) / 153
  let month := if fromMarch < 10 then fromMarch + 3 else fromMarch - 9
  { year := era * 400 + yearOfEra + (if month ≤ 2 then 1 else 0)
    month := month
    day := dayOfYear - (153 * fromMarch + 2) / 5 + 1 }

example : Date.toDays ⟨1970, 1, 1⟩ = 0 := by decide

-- the day after 28 February is its leap day exactly in leap years
example : Date.ofDays (Date.toDays ⟨2000, 2, 28⟩ + 1) = ⟨2000, 2, 29⟩ := by decide
example : Date.ofDays (Date.toDays ⟨1900, 2, 28⟩ + 1) = ⟨1900, 3, 1⟩ := by decide

end CpuAlert.Time
