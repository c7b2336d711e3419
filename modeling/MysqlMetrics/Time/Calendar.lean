import MysqlMetrics.Decimal.Binary

/-!
# Dates and times of day

The proleptic Gregorian calendar, counted in days from 1970-01-01, and a time of day with a leap
second.

* `dayNumber_next_day`: the next day of a month has the next number.
* `dayNumber_next_month`, `dayNumber_next_year`: so has the first day of the next month and year.
-/

namespace MysqlMetrics

/-- A date and a time of day, as they are written; `second` may be 60, a leap second. -/
structure DateTime where
  year : Int
  month : Nat
  day : Nat
  hour : Nat
  minute : Nat
  second : Nat
  nanosecond : Nat
  deriving DecidableEq, Repr

namespace Calendar

/-- Every fourth year has a 29 February, except three in four turns of the century. -/
def isLeap (year : Int) : Bool := year % 4 = 0 ∧ (year % 100 ≠ 0 ∨ year % 400 = 0)

/-- The number of days of a month; there is no month 0 and none after 12. -/
def daysInMonth (year : Int) (month : Nat) : Nat :=
  match month with
  | 2 => if isLeap year then 29 else 28
  | 4 | 6 | 9 | 11 => 30
  | 1 | 3 | 5 | 7 | 8 | 10 | 12 => 31
  | _ => 0

/-- The days of a year before a month begins. -/
def daysBeforeMonth (year : Int) : Nat → Nat
  | 0 => 0
  | month + 1 => daysBeforeMonth year month + daysInMonth year month

/-- The days from the first day of year 1 to the first day of a year. -/
def daysBeforeYear (year : Int) : Int :=
  365 * (year - 1) + (year - 1) / 4 - (year - 1) / 100 + (year - 1) / 400

/-- The number of a day, 1970-01-01 being day 0. -/
def dayNumber (year : Int) (month day : Nat) : Int :=
  daysBeforeYear year + daysBeforeMonth year month + day - 1 - daysBeforeYear 1970

/-- The first year that a date may have. -/
def firstYear : Int := -262143

/-- The last year that a date may have. -/
def lastYear : Int := 262142

theorem dayNumber_epoch : dayNumber 1970 1 1 = 0 := by decide

theorem dayNumber_next_day (year : Int) (month day : Nat) :
    dayNumber year month (day + 1) = dayNumber year month day + 1 := by
  unfold dayNumber
  omega

theorem dayNumber_next_month (year : Int) (month : Nat) :
    dayNumber year (month + 1) 1 = dayNumber year month (daysInMonth year month) + 1 := by
  simp only [dayNumber, daysBeforeMonth]
  omega

theorem dayNumber_next_year (year : Int) :
    dayNumber (year + 1) 1 1 = dayNumber year 12 31 + 1 := by
  have hy : (year + 1 - 1 : Int) = year := by omega
  simp only [dayNumber, daysBeforeMonth, daysBeforeYear, daysInMonth, hy]
  by_cases h : isLeap year = true
  · rw [if_pos h]
    simp only [isLeap, ne_eq, decide_eq_true_eq] at h
    omega
  · rw [if_neg h]
    simp only [isLeap, ne_eq, decide_eq_true_eq] at h
    omega

end Calendar

namespace DateTime

open Calendar

/-- The calendar has the date and the day has the time. -/
def Exists (t : DateTime) : Prop :=
  firstYear ≤ t.year ∧ t.year ≤ lastYear ∧ 1 ≤ t.month ∧ t.month ≤ 12 ∧ 1 ≤ t.day ∧
    t.day ≤ daysInMonth t.year t.month ∧ t.hour ≤ 23 ∧ t.minute ≤ 59 ∧ t.second ≤ 60

instance (t : DateTime) : Decidable t.Exists := by
  unfold Exists
  infer_instance

/-- Whole seconds from 1970-01-01 00:00:00 UTC; a leap second still counts as the one before it. -/
def unixSeconds (t : DateTime) : Int :=
  dayNumber t.year t.month t.day * 86400 + t.hour * 3600 + t.minute * 60 + min t.second 59

/-- Whole microseconds beyond the seconds; a leap second counts here. -/
def microseconds (t : DateTime) : Nat :=
  (t.nanosecond + if t.second = 60 then 1000000000 else 0) / 1000

/-- Seconds from 1970-01-01 00:00:00 UTC as a double: the whole seconds plus the fraction. -/
def toUnix (t : DateTime) : Float :=
  Decimal.ofInteger64 t.unixSeconds + Decimal.ofNatural64 t.microseconds / 1000000

end DateTime

end MysqlMetrics
