import RowFilter.Operation

/-!
# Editing operations

Changes that keep what was typed: other operand texts, checks that can be undone, other operators.
-/

namespace RowFilter.Operation

/-! ## Operands -/

/-- The operand that an editor shows, the lower one of a range. -/
def operand? : Operation → Option Operand
  | .compare _ o | .between o _ | .inDate o => some o
  | _ => none

def withOperand (op : Operation) (raw : String) : Operation :=
  match op with
  | .compare c o => .compare c (o.update raw)
  | .between l u => .between (l.update raw) u
  | .inDate _ => .inDate ⟨.date, raw⟩
  | op => op

def withBounds (op : Operation) (lower upper : String) : Operation :=
  match op with
  | .between l u => .between (l.update lower) (u.update upper)
  | op => op

/-! ## Checks -/

def ofCheck (c : Check) : Option Operation → Operation
  | none => .check c
  | some previous => .checkOver c previous

/-- What a check put over this operation remembers: an earlier check is skipped. -/
def remembered? : Operation → Option Operation
  | .check _ => none
  | .checkOver _ previous => some previous
  | op => some op

/-- Puts a check over an operation, unless it is that check already. -/
def withCheck (c : Check) (op : Operation) : Operation :=
  if op.operator = .check c then op else ofCheck c op.remembered?

def checkNull : Operation → Operation := withCheck .isNull

def toFuture : Operation → Operation := withCheck .inFuture

def toPast : Operation → Operation := withCheck .inPast

def restore (op default : Operation) : Operation :=
  match op with
  | .check _ => default
  | .checkOver _ previous => previous
  | op => op

/-- Undoes the check for null only. -/
def uncheckNull (op default : Operation) : Operation :=
  if op.operator = .check .isNull then op.restore default else op

/-! ## Operators -/

def rawText (op : Operation) : String := (op.operand?.map Operand.raw).getD ""

/-- An operation with the target operator that keeps the choices or else the text of the operand. -/
def convert (column : Column) (target : Operator) (op : Operation) : Operation :=
  match target, op with
  | .member m, .member _ s => .member m s
  | _, _ => .build column target op.rawText

/-- Switches to another operator. A check is put over the operation; an operator that the column
does not allow changes nothing. -/
def changeOperator (column : Column) (op : Operation) (target : Operator) : Operation :=
  if !column.allows target || op.operator = target then op
  else
    match target with
    | .check c => ofCheck c op.remembered?
    | _ =>
      let current := op.restore column.defaultOperation
      if current.operator = target then current else current.convert column target

end RowFilter.Operation

namespace RowFilter

/-! ## Runs of edits -/

inductive Edit where
  | checkNull
  | toFuture
  | toPast
  | uncheckNull (default : Operation)
  | restore (default : Operation)
  | withOperand (raw : String)
  | withBounds (lower upper : String)
  | changeOperator (target : Operator)
  deriving DecidableEq

namespace Operation

def edit (column : Column) (op : Operation) : Edit → Operation
  | .checkNull => op.checkNull
  | .toFuture => op.toFuture
  | .toPast => op.toPast
  | .uncheckNull default => op.uncheckNull default
  | .restore default => op.restore default
  | .withOperand raw => op.withOperand raw
  | .withBounds lower upper => op.withBounds lower upper
  | .changeOperator target => op.changeOperator column target

def editAll (column : Column) (op : Operation) (edits : List Edit) : Operation :=
  edits.foldl (edit column) op

end Operation

end RowFilter
