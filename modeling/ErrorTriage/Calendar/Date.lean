/-!
# Date — days of the proleptic Gregorian calendar

A date is a year, a month and a day that exist in the calendar, within a range of years of either
sign.  Order is by year, month and day.  Only the step to a neighbouring day is offered: no count
of days is needed.
-/

namespace ErrorTriage
namespace Date

def firstYear : Int := -262143

def lastYear : Int := 262142

/-- Every fourth year, but of the full centuries only every fourth. -/
def isLeapYear (year : Int) : Bool :=
  year % 4 == 0 && (year % 100 != 0 || year % 400 == 0)

def daysInMonth (year : Int) (month : Nat) : Nat :=
  match month with
  | 2 => if isLeapYear year then 29 else 28
  | 4 | 6 | 9 | 11 => 30
  | _ => 31

/-- Whether the three parts name a day. -/
def isDay (year : Int) (month day : Nat) : Bool :=
  firstYear ≤ year && year ≤ lastYear && 1 ≤ month && month ≤ 12
    && 1 ≤ day && day ≤ daysInMonth year month

end Date

structure Date where
  /-- The year; the year before year one is zero. -/
  year : Int
  month : Nat
  /-- The day of the month, from one. -/
  day : Nat
  /-- The parts name a day. -/
  valid : Date.isDay year month day = true
deriving DecidableEq, Repr

namespace Date

def of? (year : Int) (month day : Nat) : Option Date :=
  if h : isDay year month day = true then some ⟨year, month, day, h⟩ else none

/-- The day after, unless the range of years ends. -/
def next? (d : Date) : Option Date :=
  if d.day < daysInMonth d.year d.month then of? d.year d.month (d.day + 1)
  else if d.month < 12 then of? d.year (d.month + 1) 1
  else of? (d.year + 1) 1 1

/-- The day before, unless the range of years ends. -/
def previous? (d : Date) : Option Date :=
  if 1 < d.day then of? d.year d.month (d.day - 1)
  else if 1 < d.month then of? d.year (d.month - 1) (daysInMonth d.year (d.month - 1))
  else of? (d.year - 1) 12 31

def order (a b : Date) : Ordering :=
  (compare a.year b.year).then ((compare a.month b.month).then (compare a.day b.day))

def epoch : Date := ⟨1970, 1, 1, by decide⟩

/-- The parts of a day name that day. -/
theorem of?_self (d : Date) : of? d.year d.month d.day = some d := by
  simp [of?, d.valid]

end Date
end ErrorTriage
