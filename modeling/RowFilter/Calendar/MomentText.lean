import RowFilter.Calendar.DateText
import RowFilter.Calendar.Moment

/-!
# Moments as text

A moment is written `YYYY-MM-DDTHH:MM:SS`, with six decimal places if they are not all zero and
with the offset if there is one. It is read from a day in any of its forms, optionally followed by a
separator, a time of day that may leave out its last parts or its colons, and an offset.
-/

namespace RowFilter.Calendar

open RowFilter.Text

/-! ## Writing -/

/-- Microseconds of a second with the point before them, nothing if there are none. -/
def fractionText (micros : Nat) : List Char := if micros = 0 then [] else '.' :: decimalText 6 micros

def secondsText (seconds : Nat) : List Char :=
  decimalText 2 (seconds / 3600) ++ ':' :: decimalText 2 (seconds / 60 % 60) ++ ':' ::
    decimalText 2 (seconds % 60)

def LocalTime.text (t : LocalTime) : List Char :=
  t.date.text ++ 'T' :: secondsText (t.micros / microsPerSecond) ++
    fractionText (t.micros % microsPerSecond)

/-- Seconds are written only if they are not zero or a fraction follows. -/
def offsetText (offset : Int) : List Char :=
  let micros := offset.natAbs
  let full := secondsText (micros / microsPerSecond) ++ fractionText (micros % microsPerSecond)
  (if offset < 0 then '-' else '+') ::
    (if micros % (60 * microsPerSecond) = 0 then full.take 5 else full)

def Moment.text (m : Moment) : List Char := m.clock.text ++ (m.offset.map offsetText).getD []

/-! ## Reading a time of day -/

/-- Hours, minutes, seconds and microseconds as they were spelled, and whether the text ended with
them. -/
structure ClockReading where
  hour : Nat
  minute : Nat
  second : Nat
  micros : Nat
  complete : Bool
  deriving DecidableEq, Repr

namespace ClockReading

def seconds (c : ClockReading) : Nat := c.hour * 3600 + c.minute * 60 + c.second

/-- A text ends where nothing follows, or a null character. -/
def isEnd (s : List Char) : Bool := s.head?.all (· = '\x00')

/-- The part of the reading at a position: hour, minute or second. -/
def set (c : ClockReading) : Nat → Nat → ClockReading
  | 0, n => { c with hour := n }
  | 1, n => { c with minute := n }
  | _, n => { c with second := n }

/-- At most six decimal places, all of the text if it is shorter; further digits are dropped. -/
def readFraction? (c : ClockReading) (s : List Char) : Option ClockReading := do
  let width := min 6 s.length
  let (n, rest) ← takeDigits? width 0 s
  some { c with micros := n * Nat.pow 10 (6 - width), complete := isEnd (rest.dropWhile Char.isDigit) }

/-- Reads up to `left` parts of two digits. The first decides whether colons separate them; a point
or a comma leads to the fraction at any place; one stray ASCII character may end the text. -/
def readParts? (c : ClockReading) (colons : Bool) : Nat → List Char → Option ClockReading
  | 0, s => c.readFraction? s
  | left + 1, s => do
    let (n, rest) ← takeDigits? 2 0 s
    let c := c.set (2 - left) n
    let colons := if left = 2 then rest.head? = some ':' else colons
    match rest with
    | [] => some { c with complete := true }
    | mark :: more =>
      if more = [] && mark.toNat < 0x80 then some { c with complete := isEnd rest }
      else if colons && mark = ':' then c.readParts? colons left more
      else if mark = '.' || mark = ',' then c.readFraction? more
      else if colons then none
      else c.readParts? colons left rest

def read? (s : List Char) : Option ClockReading := readParts? ⟨0, 0, 0, 0, true⟩ false 3 s

end ClockReading

def isOffsetMark (c : Char) : Bool := c = '+' || c = '-' || c = 'Z'

/-- The offset that a mark and the text after it give, less than a day in either direction. An
offset of no whole seconds is universal time. -/
def readOffset? (mark : Char) (s : List Char) : Option Int := do
  if mark = 'Z' then
    if ClockReading.isEnd s then some 0 else none
  else
    let c ← ClockReading.read? s
    let size := if c.seconds = 0 then 0 else c.seconds * microsPerSecond + c.micros
    if c.complete && size < microsPerDay then
      some (if mark = '-' then -(size : Int) else size)
    else none

/-- A time of day on a date. What stands before an offset need not be complete. -/
def readTime? (date : Date) (s : List Char) : Option Moment := do
  let c ← ClockReading.read? (s.takeWhile (!isOffsetMark ·))
  let offset ← match s.dropWhile (!isOffsetMark ·) with
    | [] => if c.complete then some none else none
    | mark :: rest => (readOffset? mark rest).map some
  if c.hour < 24 && c.minute < 60 && c.second < 60 then
    (LocalTime.of? date (c.seconds * microsPerSecond + c.micros)).map (⟨·, offset⟩)
  else none

/-! ## Reading a moment -/

/-- The number of characters of the day at the front of a text, from the shape of the text. After
the week of a year, a digit is the day of the week unless it begins a time of day. -/
def dateWidth (s : List Char) : Nat :=
  if s.length = 7 then 7
  else if s[4]? = some '-' then
    if s[5]? = some 'W' then
      if s[8]? = some '-' && !(s[10]?.any Char.isDigit) then 10 else 8
    else 10
  else if s[4]? = some 'W' then
    let digits := ((s.drop 7).takeWhile Char.isDigit).length
    if digits < 2 then 7 + digits else if digits % 2 = 1 then 7 else 8
  else 8

/-- The moment that a text spells: a day alone is its midnight; what follows a day is a separator,
any one character, and a time of day. -/
def Moment.ofText? (s : List Char) : Option Moment := do
  let width := dateWidth s
  let date ← Date.leading? (s.take width)
  match s.drop width with
  | [] => (LocalTime.of? date 0).map (⟨·, none⟩)
  | _ :: time => readTime? date time

end RowFilter.Calendar
