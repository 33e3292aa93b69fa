import RowFilter.Text.Blank

/-!
# Quoted values

A value between double quotes holds any text: a backslash makes the next character ordinary.
-/

namespace RowFilter.Wire.Quoted

open RowFilter.Text

/-- The characters with a meaning in a list of values or a group of conditions. -/
def isReserved (c : Char) : Bool := c = ',' || c = '(' || c = ')' || c = '"' || c = '\\'

/-- Where a value stands: alone after its operator, or inside parentheses. -/
inductive Place where
  | alone
  | nested
  deriving DecidableEq, Repr

/-- The text begins with a quote and another quote ends it. -/
def isQuoted : List Char → Bool
  | [] => false
  | c :: rest => c = '"' && rest.getLast? = some '"'

/-- A value alone is quoted only if it would be read as quoted; a nested one also if it is empty,
has blanks at an end or holds a reserved character. -/
def needsQuotes : Place → List Char → Bool
  | .alone, s => isQuoted s
  | .nested, s => s = [] || s ≠ trim s || s.any isReserved

def escapeChar (c : Char) : List Char := if c = '\\' || c = '"' then ['\\', c] else [c]

def encode (place : Place) (s : List Char) : List Char :=
  if needsQuotes place s then '"' :: s.flatMap escapeChar ++ ['"'] else s

/-- Takes the backslashes away; one at the very end stays. -/
def unescape : List Char → List Char
  | [] => []
  | [c] => [c]
  | c :: d :: rest => if c = '\\' then d :: unescape rest else c :: unescape (d :: rest)

/-- The text that a token stands for; a token that is not quoted stands for itself. -/
def decode (token : List Char) : List Char :=
  if isQuoted token then unescape token.tail.dropLast else token

/-! ## Reading back -/

theorem unescape_escape (s : List Char) : unescape (s.flatMap escapeChar) = s := by
  induction s with
  | nil => rfl
  | cons c rest ih =>
      rw [List.flatMap_cons]
      by_cases h : c = '\\' ∨ c = '"'
      · simp [escapeChar, h, unescape, ih]
      · have hc : c ≠ '\\' := fun hc => h (.inl hc)
        have he : escapeChar c = [c] := by simp_all [escapeChar]
        rw [he]
        cases ht : rest.flatMap escapeChar with
        | nil => rw [ht] at ih; simp_all [unescape]
        | cons d t => rw [ht] at ih; simp [unescape, hc, ih]

theorem isQuoted_eq_false {place : Place} {s : List Char} (h : needsQuotes place s = false) :
    isQuoted s = false := by
  cases place with
  | alone => exact h
  | nested =>
      cases s with
      | nil => rfl
      | cons c rest =>
          have hc : isReserved c = false := by
            simp only [needsQuotes, Bool.or_eq_false_iff, List.any_cons] at h
            exact h.2.1
          have hq : c ≠ '"' := by
            rintro rfl
            simp [isReserved] at hc
          simp [isQuoted, hq]

/-- Reading undoes writing, in both places. -/
theorem decode_encode (place : Place) (s : List Char) : decode (encode place s) = s := by
  cases h : needsQuotes place s with
  | false => simp [encode, decode, h, isQuoted_eq_false h]
  | true => simp [encode, decode, h, isQuoted, unescape_escape]

end RowFilter.Wire.Quoted
