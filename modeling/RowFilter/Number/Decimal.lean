import RowFilter.Number.Binary64
import RowFilter.Number.Integer

/-!
# Reading decimal numbers

A decimal number has an optional sign, digits with at most one point among them, and an optional
exponent; `inf`, `infinity` and `nan` are numbers too, in either case.
-/

namespace RowFilter.Number

open RowFilter.Text

/-- The digits of `s` before and after a decimal point and what follows them. -/
def splitPoint (s : List Char) : List Char × List Char × List Char :=
  let whole := s.takeWhile Char.isDigit
  match s.dropWhile Char.isDigit with
  | '.' :: rest => (whole, rest.takeWhile Char.isDigit, rest.dropWhile Char.isDigit)
  | rest => (whole, [], rest)

def readExponent? : List Char → Option Int
  | [] => some 0
  | c :: rest =>
    let (sign, digits) := splitSign rest
    if (c = 'e' || c = 'E') && digits ≠ [] && digits.all Char.isDigit then
      match sign with
      | .plus => some (natOfDigits digits)
      | .minus => some (-(natOfDigits digits : Int))
    else none

def readMagnitude? (negative : Bool) (s : List Char) : Option Binary64 :=
  let name := s.map Char.toLower
  if name = "inf".toList || name = "infinity".toList then some (.infinity negative)
  else if name = "nan".toList then some .nan
  else
    let (whole, fraction, rest) := splitPoint s
    if whole = [] && fraction = [] then none
    else (readExponent? rest).map fun e =>
      .ofDecimal negative (natOfDigits (whole ++ fraction)) (e - fraction.length)

/-- The number that a text spells; underscores are allowed between two digits. -/
def readDecimal? (s : List Char) : Option Binary64 :=
  let ascii := s.map toAsciiNumeral
  if underscoresSeparate false ascii then
    let (sign, rest) := splitSign
      (dropEndWhile isAsciiBlank ((ascii.filter (· ≠ '_')).dropWhile isAsciiBlank))
    readMagnitude? (sign = .minus) rest
  else none

end RowFilter.Number
