/-!
# UTF-8

Characters as bytes, and bytes as characters with a replacement character for every maximal
ill-formed part. Bytes are numbers below 256.
-/

namespace RowFilter.Text.Utf8

def encodeChar (c : Char) : List Nat :=
  let n := c.toNat
  if n < 0x80 then [n]
  else if n < 0x800 then [0xC0 + n / 0x40, 0x80 + n % 0x40]
  else if n < 0x10000 then [0xE0 + n / 0x1000, 0x80 + n / 0x40 % 0x40, 0x80 + n % 0x40]
  else [0xF0 + n / 0x40000, 0x80 + n / 0x1000 % 0x40, 0x80 + n / 0x40 % 0x40, 0x80 + n % 0x40]

def encode (s : List Char) : List Nat := s.flatMap encodeChar

def replacement : Char := '\uFFFD'

/-- How far a character has been read: the continuation bytes still to come, the bits so far and
the range of the next byte. -/
inductive Pending where
  | idle
  | within (left bits low high : Nat)
  deriving DecidableEq, Repr

namespace Pending

/-- The state after a byte that begins a longer character; the range of the second byte excludes
overlong forms, surrogates and numbers beyond the last code point. -/
def ofLead? (b : Nat) : Option Pending :=
  if 0xC2 ≤ b ∧ b ≤ 0xDF then some (.within 1 (b - 0xC0) 0x80 0xBF)
  else if b = 0xE0 then some (.within 2 0 0xA0 0xBF)
  else if b = 0xED then some (.within 2 0xD 0x80 0x9F)
  else if 0xE1 ≤ b ∧ b ≤ 0xEF then some (.within 2 (b - 0xE0) 0x80 0xBF)
  else if b = 0xF0 then some (.within 3 0 0x90 0xBF)
  else if 0xF1 ≤ b ∧ b ≤ 0xF3 then some (.within 3 (b - 0xF0) 0x80 0xBF)
  else if b = 0xF4 then some (.within 3 4 0x80 0x8F)
  else none

def start (b : Nat) : List Char × Pending :=
  if b < 0x80 then ([Char.ofNat b], .idle)
  else match ofLead? b with
    | some p => ([], p)
    | none => ([replacement], .idle)

/-- One byte more: the characters it completes and the state after it. -/
def step : Pending → Nat → List Char × Pending
  | .idle, b => start b
  | .within left bits low high, b =>
    if low ≤ b ∧ b ≤ high then
      if left ≤ 1 then ([Char.ofNat (bits * 0x40 + (b - 0x80))], .idle)
      else ([], .within (left - 1) (bits * 0x40 + (b - 0x80)) 0x80 0xBF)
    else (replacement :: (start b).1, (start b).2)

/-- What an unfinished character leaves when the bytes end. -/
def finish : Pending → List Char
  | .idle => []
  | .within .. => [replacement]

end Pending

end RowFilter.Text.Utf8
