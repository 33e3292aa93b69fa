import RowFilter.Calendar.Date

/-!
# Moments

A moment is a day with a time of day, and possibly an offset from universal time.
-/

namespace RowFilter.Calendar

def microsPerSecond : Nat := 1000000

def microsPerDay : Nat := 86400 * microsPerSecond

structure LocalTime where
  date : Date
  micros : Nat
  inDay : micros < microsPerDay
  deriving DecidableEq

/-- A local time with its offset from universal time in microseconds, if it is known. -/
structure Moment where
  clock : LocalTime
  offset : Option Int
  deriving DecidableEq

namespace LocalTime

def of? (date : Date) (micros : Nat) : Option LocalTime :=
  if h : micros < microsPerDay then some ⟨date, micros, h⟩ else none

def lt (a b : LocalTime) : Bool := a.date.lt b.date || (a.date = b.date && a.micros < b.micros)

/-- The local time later by less than a day in either direction. -/
def shift? (t : LocalTime) (micros : Int) : Option LocalTime :=
  let total := t.micros + micros
  if total < 0 then do of? (← t.date.prev?) (total + microsPerDay).toNat
  else if microsPerDay ≤ total then do of? (← t.date.next?) (total - microsPerDay).toNat
  else of? t.date total.toNat

end LocalTime

namespace Moment

/-- The moment in universal time; a moment without an offset counts as it stands. None if the
calendar does not reach that far. -/
def universal? (m : Moment) : Option LocalTime :=
  match m.offset with
  | none => some m.clock
  | some offset => m.clock.shift? (-offset)

end Moment

end RowFilter.Calendar
