import RowFilter.Number.Binary64

/-!
# Shortest decimal text

A finite number is written with the fewest digits that read back as the same number, nearest to it
among those.
-/

namespace RowFilter.Number

/-- The decimal `digits · 10 ^ exponent`. -/
structure Decimal where
  digits : Nat
  exponent : Int
  deriving DecidableEq, Repr

namespace Binary64

/-- The decimals that read back as a positive number of units: between `low` and `high` quarters of
a unit, the ends included or not. -/
structure Interval where
  low : Nat
  high : Nat
  closed : Bool

/-- Half a step on both sides; below a power of two the steps are half as wide. -/
def interval (units : Nat) : Interval :=
  let step := Nat.pow 2 (droppedBits units)
  let lowGap := if 1 < step && units = step * Nat.pow 2 52 then step else 2 * step
  ⟨4 * units - lowGap, 4 * units + 2 * step, units / step % 2 = 0⟩

def quartersPerOne : Nat := 4 * unitsPerOne

def Interval.contains (i : Interval) (digits : Nat) (exponent : Int) : Bool :=
  let value := digits * Nat.pow 10 exponent.toNat * quartersPerOne
  let scale := Nat.pow 10 (-exponent).toNat
  if i.closed then i.low * scale ≤ value && value ≤ i.high * scale
  else i.low * scale < value && value < i.high * scale

/-- The place of the decimal point relative to the first digit: the number lies from
`10 ^ (place - 1)` up to `10 ^ place`. -/
def pointPlace (units : Nat) : Int :=
  (Nat.toDigits 10 (units * Nat.pow 10 400 / unitsPerOne)).length - 400

/-- The neighbours of the number on the grid of `10 ^ exponent`, the nearer one first and of two
equally near ones the even. -/
def neighbours (units : Nat) (exponent : Int) : List Nat :=
  let num := units * Nat.pow 10 (-exponent).toNat
  let den := unitsPerOne * Nat.pow 10 exponent.toNat
  let below := num / den
  if roundDiv num den = below then [below, below + 1] else [below + 1, below]

def candidate? (units : Nat) (count : Nat) : Option Decimal :=
  let exponent := pointPlace units - count
  ((neighbours units exponent).find? ((interval units).contains · exponent)).map (⟨·, exponent⟩)

/-- The shortest decimal of a positive number of units; 17 digits always suffice. -/
def shortest (units : Nat) : Decimal :=
  ((List.range 17).findSome? fun n => candidate? units (n + 1)).getD ⟨0, 0⟩

end Binary64

/-! ## Layout -/

/-- How a decimal is written out. -/
structure DecimalLayout where
  /-- The least and the largest place of the point that is written positionally. -/
  minPlace : Int
  maxPlace : Int
  /-- The least number of digits of an exponent. -/
  exponentWidth : Nat
  nan : String
  infinity : String

/-- Numbers from `0.0001` up to `10 ^ 16` are positional; a whole number ends in `.0`. -/
def DecimalLayout.plain : DecimalLayout := ⟨-3, 16, 2, "nan", "inf"⟩

/-- As `plain`, with the names of the special numbers in JSON data. -/
def DecimalLayout.data : DecimalLayout := ⟨-3, 16, 2, "NaN", "Infinity"⟩

def dropTrailingZeros (s : List Char) : List Char := (s.reverse.dropWhile (· = '0')).reverse

def padLeft (width : Nat) (s : List Char) : List Char := List.replicate (width - s.length) '0' ++ s

namespace DecimalLayout

/-- A nonempty row of digits with the point at `place`. -/
def renderDigits (l : DecimalLayout) (digits : List Char) (place : Int) : List Char :=
  if place < l.minPlace || l.maxPlace < place then
    let exponent := place - 1
    let fraction := if digits.tail = [] then [] else '.' :: digits.tail
    digits.take 1 ++ fraction ++ 'e' :: (if exponent < 0 then '-' else '+')
      :: padLeft l.exponentWidth (Nat.toDigits 10 exponent.natAbs)
  else if place ≤ 0 then '0' :: '.' :: List.replicate (-place).toNat '0' ++ digits
  else
    let whole := digits.take place.toNat
    let fraction := digits.drop place.toNat
    whole ++ List.replicate (place.toNat - whole.length) '0' ++ '.'
      :: (if fraction = [] then ['0'] else fraction)

def renderMagnitude (l : DecimalLayout) (units : Nat) : List Char :=
  if units = 0 then "0.0".toList
  else
    let d := Binary64.shortest units
    let all := Nat.toDigits 10 d.digits
    l.renderDigits (dropTrailingZeros all) (d.exponent + all.length)

def render (l : DecimalLayout) : Binary64 → String
  | .nan => l.nan
  | .infinity negative => if negative then "-" ++ l.infinity else l.infinity
  | .finite negative units =>
    String.ofList ((if negative then ['-'] else []) ++ l.renderMagnitude units)

end DecimalLayout

end RowFilter.Number
