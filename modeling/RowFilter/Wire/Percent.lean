import RowFilter.Text.Utf8

/-!
# Percent encoding

Text inside a query string: unreserved characters stand for themselves, every other character is
written as its UTF-8 bytes, each a percent sign with two hexadecimal digits.
-/

namespace RowFilter.Wire.Percent

open RowFilter.Text

/-! ## Writing -/

/-- ASCII letters, digits and `-`, `.`, `_`, `~`. -/
def isUnreserved (c : Char) : Bool :=
  c.isAlphanum || c = '-' || c = '.' || c = '_' || c = '~'

def hexDigit (n : Nat) : Char := Char.ofNat (if n < 10 then 0x30 + n else 0x37 + n)

def escapeByte (b : Nat) : List Char := ['%', hexDigit (b / 16), hexDigit (b % 16)]

def encodeChar (c : Char) : List Char :=
  if isUnreserved c then [c] else (Utf8.encodeChar c).flatMap escapeByte

def encode (s : List Char) : List Char := s.flatMap encodeChar

/-! ## Reading -/

/-- A byte given by an ASCII character or an escape, or a character beyond ASCII. -/
inductive Piece where
  | byte (b : Nat)
  | literal (c : Char)
  deriving DecidableEq, Repr

def Piece.ofChar (c : Char) : Piece := if c.toNat < 0x80 then .byte c.toNat else .literal c

def hexValue? (c : Char) : Option Nat :=
  if '0' ≤ c ∧ c ≤ '9' then some (c.toNat - 0x30)
  else if 'A' ≤ c ∧ c ≤ 'F' then some (c.toNat - 0x37)
  else if 'a' ≤ c ∧ c ≤ 'f' then some (c.toNat - 0x57)
  else none

def escape? (c high low : Char) : Option Nat :=
  if c = '%' then
    match hexValue? high, hexValue? low with
    | some h, some l => some (16 * h + l)
    | _, _ => none
  else none

/-- The pieces of a text; a percent sign without two hexadecimal digits stands for itself. -/
def pieces : List Char → List Piece
  | [] => []
  | [c] => [.ofChar c]
  | [c, d] => [.ofChar c, .ofChar d]
  | c :: d :: e :: rest =>
    match escape? c d e with
    | some b => .byte b :: pieces rest
    | none => .ofChar c :: pieces (d :: e :: rest)

/-- Bytes are joined into characters up to the next character beyond ASCII. -/
def join : Utf8.Pending → List Piece → List Char
  | p, [] => p.finish
  | p, .byte b :: rest => (p.step b).1 ++ join (p.step b).2 rest
  | p, .literal c :: rest => p.finish ++ c :: join .idle rest

def decode (s : List Char) : List Char := join .idle (pieces s)

end RowFilter.Wire.Percent
