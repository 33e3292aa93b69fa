import RowFilter.Text.Digit

/-!
# Reading integers

An integer has an optional sign and decimal digits of any script, with single underscores between
them, and may stand between blanks. More than 4300 digits are refused.
-/

namespace RowFilter.Number

open RowFilter.Text

inductive Sign where
  | plus
  | minus
  deriving DecidableEq, Repr

def splitSign : List Char → Sign × List Char
  | '+' :: rest => (.plus, rest)
  | '-' :: rest => (.minus, rest)
  | s => (.plus, s)

/-- The number that ASCII digits spell; other characters are passed over. -/
def natOfDigits (s : List Char) : Nat :=
  s.foldl (fun n c => match asciiDigit? c with | some d => 10 * n + d | none => n) 0

inductive IntegerError where
  | malformed
  | tooLong (digits : Nat)
  deriving DecidableEq, Repr

def maxDigits : Nat := 4300

/-- Every underscore has a digit on both sides; `afterDigit` tells of the character before. -/
def underscoresSeparate (afterDigit : Bool) : List Char → Bool
  | [] => true
  | c :: rest =>
    if c = '_' then
      afterDigit && rest.head?.any Char.isDigit && underscoresSeparate false rest
    else underscoresSeparate c.isDigit rest

def isNumeralChar (c : Char) : Bool := c.isDigit || c = '_'

/-- The integer that a text spells. The length of the numeral is judged before what follows it. -/
def readInteger (s : List Char) : Except IntegerError Int :=
  let (sign, rest) := splitSign ((s.map toAsciiNumeral).dropWhile isAsciiBlank)
  let numeral := rest.takeWhile isNumeralChar
  let digits := numeral.countP Char.isDigit
  if !underscoresSeparate false numeral then .error .malformed
  else if maxDigits < digits then .error (.tooLong digits)
  else if digits = 0 || (rest.dropWhile isNumeralChar).any (!isAsciiBlank ·) then .error .malformed
  else match sign with
    | .plus => .ok (natOfDigits numeral)
    | .minus => .ok (-(natOfDigits numeral : Int))

end RowFilter.Number
