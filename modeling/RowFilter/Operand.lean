import RowFilter.Column
import RowFilter.Calendar.MomentText
import RowFilter.Number.Decimal

/-!
# Operands

An operand keeps a text as it was typed, however incomplete, with the kind of value that it is
meant to spell.
-/

namespace RowFilter

open RowFilter.Calendar RowFilter.Number RowFilter.Text

inductive OperandKind where
  | text
  | integer
  | float
  | date
  | time
  deriving DecidableEq, Repr

/-- The kind of operand that a column is compared with. -/
def ColumnKind.operandKind? : ColumnKind → Option OperandKind
  | .text => some .text
  | .integer => some .integer
  | .float => some .float
  | .date => some .date
  | .time => some .time
  | .boolean | .enum => none

structure Operand where
  kind : OperandKind
  raw : String
  deriving DecidableEq, Repr

inductive Value where
  | text (s : String)
  | integer (n : Int)
  | float (x : Binary64)
  | date (d : Date)
  | time (m : Moment)
  deriving DecidableEq

namespace Operand

def ofColumn? (c : Column) (raw : String) : Option Operand := c.kind.operandKind?.map (⟨·, raw⟩)

def update (o : Operand) (raw : String) : Operand := { o with raw }

/-- The value that the text spells, blanks at its ends aside; a text spells itself as it is. -/
def value? (o : Operand) : Option Value :=
  let s := trim o.raw.toList
  match o.kind with
  | .text => some (.text o.raw)
  | .integer => (readInteger s).toOption.map .integer
  | .float => (readDecimal? s).map .float
  | .date => (Date.ofText? s).map .date
  | .time => (Moment.ofText? s).map .time

end Operand

end RowFilter
