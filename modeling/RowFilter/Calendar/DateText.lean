import RowFilter.Calendar.Date
import RowFilter.Text.Digit

/-!
# Days as text

A day is written `YYYY-MM-DD`. It is read from that form, from `YYYY-Www` and `YYYY-Www-D` with a
week and a day of the week, and from these forms without hyphens.
-/

namespace RowFilter.Calendar

open RowFilter.Text

/-! ## Writing -/

/-- The last `width` decimal digits of a number. -/
def decimalText : Nat → Nat → List Char
  | 0, _ => []
  | width + 1, n => decimalText width (n / 10) ++ [Char.ofNat ('0'.toNat + n % 10)]

namespace Date

def text (d : Date) : List Char :=
  decimalText 4 d.year ++ '-' :: decimalText 2 d.month ++ '-' :: decimalText 2 d.day

end Date

/-! ## Reading -/

/-- The number that the first `width` characters spell in ASCII digits, and the rest. -/
def takeDigits? : Nat → Nat → List Char → Option (Nat × List Char)
  | 0, n, s => some (n, s)
  | _ + 1, _, [] => none
  | width + 1, n, c :: rest =>
    match asciiDigit? c with
    | some d => takeDigits? width (10 * n + d) rest
    | none => none

theorem asciiDigit?_digit (d : Nat) (h : d < 10) :
    asciiDigit? (Char.ofNat ('0'.toNat + d)) = some d := by
  match d, h with
  | 0, _ | 1, _ | 2, _ | 3, _ | 4, _ | 5, _ | 6, _ | 7, _ | 8, _ | 9, _ => rfl

theorem takeDigits?_succ (width n : Nat) (s : List Char) :
    takeDigits? (width + 1) n s = (takeDigits? width n s).bind fun (m, t) => takeDigits? 1 m t := by
  induction width generalizing n s with
  | zero => rfl
  | succ width ih =>
      cases s with
      | nil => rfl
      | cons c rest =>
          rw [takeDigits?, takeDigits?]
          cases asciiDigit? c with
          | none => rfl
          | some d => exact ih _ _

theorem takeDigits?_decimalText {width n : Nat} (rest : List Char) (h : n < Nat.pow 10 width) :
    takeDigits? width 0 (decimalText width n ++ rest) = some (n, rest) := by
  induction width generalizing n rest with
  | zero =>
      have hn : n = 0 := Nat.lt_one_iff.1 h
      simp [takeDigits?, decimalText, hn]
  | succ width ih =>
      have hw : n < Nat.pow 10 width * 10 := h
      have hn : n / 10 < Nat.pow 10 width := by omega
      have hd : asciiDigit? (Char.ofNat ('0'.toNat + n % 10)) = some (n % 10) :=
        asciiDigit?_digit _ (by omega)
      rw [takeDigits?_succ, decimalText, List.append_assoc, ih _ hn]
      simp only [Option.bind_some, List.singleton_append, takeDigits?, hd]
      congr 2
      omega

namespace Date

def takeHyphen? (hyphens : Bool) (s : List Char) : Option (List Char) :=
  if hyphens then
    match s with
    | '-' :: rest => some rest
    | _ => none
  else some s

/-- A week and, unless the text ends there, the day of the week. -/
def leadingWeek? (year : Nat) (hyphens : Bool) (s : List Char) : Option Date := do
  let (week, rest) ← takeDigits? 2 0 s
  if rest = [] then ofWeek? year week 1
  else
    let (day, _) ← takeDigits? 1 0 (← takeHyphen? hyphens rest)
    ofWeek? year week day

def leading? (s : List Char) : Option Date := do
  let (year, rest) ← takeDigits? 4 0 s
  let hyphens := rest.head? = some '-'
  let rest ← takeHyphen? hyphens rest
  match rest with
  | 'W' :: rest => leadingWeek? year hyphens rest
  | _ =>
    let (month, rest) ← takeDigits? 2 0 rest
    let (day, _) ← takeDigits? 2 0 (← takeHyphen? hyphens rest)
    of? year month day

def byteLength (s : List Char) : Nat := s.foldr (fun c n => c.utf8Size + n) 0

/-- The day that a text spells. The length of the text in bytes decides whether it can be a day at
all; in a long text without hyphens what follows the day is not looked at. -/
def ofText? (s : List Char) : Option Date :=
  if byteLength s = 7 || byteLength s = 8 || byteLength s = 10 then leading? s else none

/-- The day that a text spells in the form `YYYY-MM-DD`. -/
def ofDashed? (s : List Char) : Option Date := do
  let (year, rest) ← takeDigits? 4 0 s
  let (month, rest) ← takeDigits? 2 0 (← takeHyphen? true rest)
  let (day, rest) ← takeDigits? 2 0 (← takeHyphen? true rest)
  if rest = [] then of? year month day else none

end Date

end RowFilter.Calendar
