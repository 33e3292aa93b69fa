/-!
# Calendar days

Days of the Gregorian calendar from the year 1 to the year 9999, their neighbours and numbers.
-/

namespace RowFilter.Calendar

def maxYear : Nat := 9999

def isLeap (year : Nat) : Bool := year % 4 = 0 && (year % 100 ≠ 0 || year % 400 = 0)

def daysInMonth (year month : Nat) : Nat :=
  if month = 2 then (if isLeap year then 29 else 28)
  else if month = 4 || month = 6 || month = 9 || month = 11 then 30
  else 31

def IsDay (year month day : Nat) : Prop :=
  (1 ≤ year ∧ year ≤ maxYear) ∧ (1 ≤ month ∧ month ≤ 12) ∧ 1 ≤ day ∧ day ≤ daysInMonth year month

instance (year month day : Nat) : Decidable (IsDay year month day) :=
  inferInstanceAs (Decidable (_ ∧ _))

structure Date where
  year : Nat
  month : Nat
  day : Nat
  isDay : IsDay year month day
  deriving DecidableEq

namespace Date

def of? (year month day : Nat) : Option Date :=
  if h : IsDay year month day then some ⟨year, month, day, h⟩ else none

/-- The following day; the last day of the calendar has none. -/
def next? (d : Date) : Option Date :=
  if d.day < daysInMonth d.year d.month then of? d.year d.month (d.day + 1)
  else if d.month < 12 then of? d.year (d.month + 1) 1
  else of? (d.year + 1) 1 1

/-- The preceding day; the first day of the calendar has none. -/
def prev? (d : Date) : Option Date :=
  if 1 < d.day then of? d.year d.month (d.day - 1)
  else if 1 < d.month then of? d.year (d.month - 1) (daysInMonth d.year (d.month - 1))
  else of? (d.year - 1) 12 31

def lt (a b : Date) : Bool :=
  a.year < b.year || (a.year = b.year &&
    (a.month < b.month || (a.month = b.month && a.day < b.day)))

/-! ## Day numbers -/

def daysBeforeYear (year : Nat) : Nat :=
  let y := year - 1
  365 * y + y / 4 - y / 100 + y / 400

def daysBeforeMonth (year month : Nat) : Nat :=
  (List.range (month - 1)).foldl (fun days m => days + daysInMonth year (m + 1)) 0

/-- Days are numbered from 1, the first day of the year 1. -/
def number (d : Date) : Nat := daysBeforeYear d.year + daysBeforeMonth d.year d.month + d.day

/-- The month and the day with a given number in the year, counted from 1. -/
def monthAndDay (year : Nat) : Nat → Nat → Nat → Nat × Nat
  | 0, month, n => (month, n)
  | fuel + 1, month, n =>
    if n ≤ daysInMonth year month then (month, n)
    else monthAndDay year fuel (month + 1) (n - daysInMonth year month)

/-- The day with a number, looked for in the year that the mean length of a year suggests and in
the years beside it. -/
def ofNumber? (n : Nat) : Option Date :=
  let guess := n * 400 / 146097 + 1
  [guess - 1, guess, guess + 1].findSome? fun year =>
    if daysBeforeYear year < n && n ≤ daysBeforeYear (year + 1) && 1 ≤ year then
      let (month, day) := monthAndDay year 11 1 (n - daysBeforeYear year)
      of? year month day
    else none

/-! ## Weeks -/

/-- The day of the week on which a year begins, Monday being 0. -/
def firstWeekday (year : Nat) : Nat := daysBeforeYear year % 7

/-- A year has 53 weeks if it begins on a Thursday, or on a Wednesday in a leap year. -/
def weeksInYear (year : Nat) : Nat :=
  if firstWeekday year = 3 || (firstWeekday year = 2 && isLeap year) then 53 else 52

/-- The first week of a year is the one with its first Thursday; the number of days before it may
reach back into the year before. -/
def daysBeforeFirstWeek (year : Nat) : Int :=
  let weekday := firstWeekday year
  (daysBeforeYear year : Int) - weekday + (if 3 < weekday then 7 else 0)

def ofWeek? (year week day : Nat) : Option Date :=
  if 1 ≤ year && 1 ≤ week && week ≤ weeksInYear year && 1 ≤ day && day ≤ 7 then
    ofNumber? (daysBeforeFirstWeek year + (week - 1) * 7 + day).toNat
  else none

end Date

end RowFilter.Calendar
