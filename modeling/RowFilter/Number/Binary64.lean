/-!
# Binary floating-point numbers of 64 bits

Every finite number is a multiple of the least positive one, `2 ^ -1074`, so a finite number is kept
as a sign and that multiple, and comparisons are comparisons of integers.
-/

namespace RowFilter.Number

/-- A number of the format; `finite` counts units of `2 ^ -1074`. -/
inductive Binary64 where
  | nan
  | infinity (negative : Bool)
  | finite (negative : Bool) (units : Nat)
  deriving DecidableEq, Repr

namespace Binary64

def unitsPerOne : Nat := Nat.pow 2 1074

/-- The least number of units beyond the largest finite number. -/
def unitsBound : Nat := Nat.pow 2 2098

def bitLength (n : Nat) : Nat := if n = 0 then 0 else Nat.log2 n + 1

/-- The binary places below the 53 significant bits of a number of units. -/
def droppedBits (units : Nat) : Nat := bitLength units - 53

/-- The quotient rounded to the nearest integer, a tie to the even one. -/
def roundDiv (num den : Nat) : Nat :=
  let q := num / den
  let r := num % den
  if den < 2 * r || (den = 2 * r && q % 2 = 1) then q + 1 else q

/-- The number nearest to `num / den` units, infinite from half a step beyond the largest. -/
def ofRatio (negative : Bool) (num den : Nat) : Binary64 :=
  let step := Nat.pow 2 (droppedBits (num / den))
  let units := roundDiv num (den * step) * step
  if units < unitsBound then .finite negative units else .infinity negative

/-- The number nearest to `digits · 10 ^ exponent`. Exponents far outside the range of the format
are answered without computing the power. -/
def ofDecimal (negative : Bool) (digits : Nat) (exponent : Int) : Binary64 :=
  let magnitude : Int := exponent + (Nat.toDigits 10 digits).length
  if digits = 0 || magnitude < -400 then .finite negative 0
  else if 400 < magnitude then .infinity negative
  else ofRatio negative (digits * Nat.pow 10 exponent.toNat * unitsPerOne)
    (Nat.pow 10 (-exponent).toNat)

/-! ## Order -/

def signedUnits (negative : Bool) (units : Nat) : Int := if negative then -units else units

/-- The usual order; a number that is no number is neither below nor above any other. -/
def lt : Binary64 → Binary64 → Bool
  | .nan, _ | _, .nan => false
  | .infinity a, .infinity b => a && !b
  | .infinity a, .finite .. => a
  | .finite .., .infinity b => !b
  | .finite a m, .finite b n => signedUnits a m < signedUnits b n

/-- An integer below a number, compared without rounding the integer. -/
def intLt (n : Int) : Binary64 → Bool
  | .nan => false
  | .infinity negative => !negative
  | .finite negative units => n * unitsPerOne < signedUnits negative units

def ltInt (x : Binary64) (n : Int) : Bool :=
  match x with
  | .nan => false
  | .infinity negative => negative
  | .finite negative units => signedUnits negative units < n * unitsPerOne

end Binary64

end RowFilter.Number
