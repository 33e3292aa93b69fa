import RowFilter.Operand.Key
import RowFilter.Wire.Form

/-!
# Groups of conditions

A range is written as a group of two conditions on one column, in parentheses.
-/

namespace RowFilter.Wire

open RowFilter.Calendar

def groupKey : List Char := "and".toList

/-- One condition of a group: a column, an operator word and a value. -/
structure Leg where
  column : List Char
  word : List Char
  raw : List Char
  deriving DecidableEq, Repr

/-- The text before the first `sep` and, if there is one, the text after it. -/
def cutAt (sep : Char) (s : List Char) : List Char × Option (List Char) :=
  match s.dropWhile (· ≠ sep) with
  | [] => (s, none)
  | _ :: rest => (s.takeWhile (· ≠ sep), some rest)

namespace Leg

/-- A leg has a column name before its first point and an operator word before its second. -/
def ofText? (text : List Char) : Option Leg := do
  let (column, rest) := cutAt '.' text
  let (word, raw) := cutAt '.' (← rest)
  if column = [] then none else some ⟨column, word, Quoted.decode (← raw)⟩

def ofGroup? (text : List Char) : Option (List Leg) := do
  (TopLevel.split [','] (← TopLevel.unwrapParens? text)).mapM ofText?

/-- The value that a word has in a group; a later leg counts before an earlier one. -/
def bound? (legs : List Leg) (c : Comparison) : Option (List Char) :=
  (legs.reverse.find? (·.word = c.word)).map raw

end Leg

/-! ## Ranges -/

/-- The range of a column from two texts, the lower one first. -/
def range? (column : Column) (a b : List Char) : Option Operation := do
  let a ← Operand.ofColumn? column (String.ofList a)
  let b ← Operand.ofColumn? column (String.ofList b)
  if b.key.lt a.key then some (.between b a) else some (.between a b)

/-- Midnight after the day: minutes, then optionally seconds and a fraction of zero. -/
def isMidnight (s : List Char) : Bool :=
  match after? "T00:00".toList s with
  | none => false
  | some [] => true
  | some rest =>
    match after? ":00".toList rest with
    | some [] => true
    | some ('.' :: zeros) => zeros ≠ [] && zeros.all (· = '0')
    | _ => false

def dropLineEnd (s : List Char) : List Char := if s.getLast? = some '\n' then s.dropLast else s

/-- The day whose first moment a text spells; one line feed may follow. -/
def dayStart? (s : List Char) : Option Date :=
  let s := dropLineEnd s
  if isMidnight (s.drop 10) then Date.ofDashed? (s.take 10) else none

/-- The day from its first moment up to that of the following day. -/
def wholeDay? (start finish : List Char) : Option Operation := do
  let day ← dayStart? start
  if day.next? = some (← dayStart? finish) then some (.inDate ⟨.date, String.ofList day.text⟩)
  else none

/-- The operation that a group stands for: two legs on the column that bound it from below and
above. -/
def readGroup? (column : Column) (legs : List Leg) : Option Operation :=
  if legs.length = 2 && legs.all (·.column = column.name.toList) then
    match Leg.bound? legs .greaterOrEqual, Leg.bound? legs .lesserOrEqual,
        Leg.bound? legs .lesserThan with
    | some low, some high, _ => range? column low high
    | some low, none, some high => if column.kind = .time then wholeDay? low high else none
    | _, _, _ => none
  else none

end RowFilter.Wire
