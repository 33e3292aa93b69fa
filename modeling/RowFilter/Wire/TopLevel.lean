/-!
# Top-level structure

A list on the wire is cut at separators outside double quotes and parentheses.
-/

namespace RowFilter.Wire.TopLevel

inductive Mode where
  | bare
  | quoted
  | escaped
  deriving DecidableEq, Repr

/-- Where a scan stands: in or out of quotes, and inside how many parentheses. -/
structure Scan where
  mode : Mode
  depth : Nat
  deriving DecidableEq, Repr

namespace Scan

def start : Scan := ⟨.bare, 0⟩

/-- A closing parenthesis without an opening one is ignored. -/
def step (s : Scan) (c : Char) : Scan :=
  match s.mode with
  | .escaped => { s with mode := .quoted }
  | .quoted =>
    if c = '\\' then { s with mode := .escaped }
    else if c = '"' then { s with mode := .bare }
    else s
  | .bare =>
    if c = '"' then { s with mode := .quoted }
    else if c = '(' then { s with depth := s.depth + 1 }
    else if c = ')' then { s with depth := s.depth - 1 }
    else s

/-- Whether the character is a separator here; quotes and parentheses never are. -/
def cutsAt (sep : List Char) (s : Scan) (c : Char) : Bool :=
  s = start && c ≠ '"' && c ≠ '(' && c ≠ ')' && [c] = sep

end Scan

def consFirst (c : Char) : List (List Char) → List (List Char)
  | [] => [[c]]
  | part :: parts => (c :: part) :: parts

/-- The parts of a text from a position of the scan on; there is always one. -/
def splitFrom (sep : List Char) : Scan → List Char → List (List Char)
  | _, [] => [[]]
  | s, c :: rest =>
    if s.cutsAt sep c then [] :: splitFrom sep s rest
    else consFirst c (splitFrom sep (s.step c) rest)

theorem splitFrom_ne_nil (sep : List Char) (s : Scan) (text : List Char) :
    splitFrom sep s text ≠ [] := by
  cases text with
  | nil => simp [splitFrom]
  | cons c rest =>
      simp only [splitFrom]
      split
      · simp
      · cases splitFrom sep (s.step c) rest <;> simp [consFirst]

/-- The parts between top-level separators; the empty text has no parts. -/
def split (sep text : List Char) : List (List Char) :=
  if text = [] then [] else splitFrom sep .start text

def unwrapParens? : List Char → Option (List Char)
  | '(' :: rest => if rest.getLast? = some ')' then some rest.dropLast else none
  | _ => none

theorem unwrapParens?_eq_some_iff {text inner : List Char} :
    unwrapParens? text = some inner ↔ text = '(' :: inner ++ [')'] := by
  constructor
  · intro h
    match text, h with
    | [], h => simp [unwrapParens?] at h
    | c :: rest, h =>
        by_cases hc : c = '('
        · subst hc
          simp only [unwrapParens?] at h
          split at h
          · rename_i hlast
            obtain ⟨init, rfl⟩ := List.getLast?_eq_some_iff.1 hlast
            simp_all
          · cases h
        · unfold unwrapParens? at h
          split at h <;> simp_all
  · rintro rfl
    simp [unwrapParens?]

end RowFilter.Wire.TopLevel
