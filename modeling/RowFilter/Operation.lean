import RowFilter.ChoiceSet
import RowFilter.Operand

/-!
# Operations

What a filter demands of a column: a comparison with an operand, a range, a day, a check, a truth
value or membership in a choice set. An operator is an operation without what it is applied to.
-/

namespace RowFilter

inductive Comparison where
  | equals
  | contains
  | startsWith
  | endsWith
  | lesserThan
  | greaterThan
  | lesserOrEqual
  | greaterOrEqual
  deriving DecidableEq, Repr

inductive Check where
  | isNull
  | inFuture
  | inPast
  deriving DecidableEq, Repr

inductive Membership where
  | oneOf
  | noneOf
  deriving DecidableEq, Repr

inductive Operator where
  | compare (c : Comparison)
  | between
  | inDate
  | check (c : Check)
  | truth (value : Bool)
  | member (m : Membership)
  deriving DecidableEq, Repr

/-- A check stands alone or remembers the operation that it replaced. -/
inductive Operation where
  | compare (c : Comparison) (operand : Operand)
  | between (lower upper : Operand)
  | inDate (day : Operand)
  | check (c : Check)
  | checkOver (c : Check) (previous : Operation)
  | truth (value : Bool)
  | member (m : Membership) (choices : ChoiceSet)
  deriving DecidableEq

structure Filter where
  column : String
  operation : Operation
  deriving DecidableEq

/-! ## Operators of a column -/

def Operation.operator : Operation → Operator
  | .compare c _ => .compare c
  | .between .. => .between
  | .inDate _ => .inDate
  | .check c | .checkOver c _ => .check c
  | .truth value => .truth value
  | .member m _ => .member m

def Operator.ordered : List Operator :=
  [.compare .lesserThan, .compare .greaterThan, .compare .lesserOrEqual, .compare .greaterOrEqual,
   .between]

def ColumnKind.furtherOperators : ColumnKind → List Operator
  | .text => [.compare .contains, .compare .startsWith, .compare .endsWith, .check .isNull]
  | .integer | .float => Operator.ordered ++ [.check .isNull]
  | .date | .time =>
    Operator.ordered ++ [.check .inFuture, .check .inPast, .check .isNull]
  | .boolean => [.truth false, .check .isNull]
  | .enum => [.member .noneOf, .check .isNull]

/-- The operator that a new filter begins with. -/
def ColumnKind.defaultOperator : ColumnKind → Operator
  | .text | .integer | .float | .date => .compare .equals
  | .time => .inDate
  | .boolean => .truth true
  | .enum => .member .oneOf

def ColumnKind.operators (k : ColumnKind) : List Operator := k.defaultOperator :: k.furtherOperators

def Column.allows (c : Column) (o : Operator) : Bool := o ∈ c.kind.operators

/-! ## Building -/

/-- The part of a moment before the time of day. -/
def dayPart (raw : String) : String := String.ofList (raw.toList.takeWhile (· ≠ 'T'))

/-- An operation of a column from a text. A column allows comparisons only if it has operands, so
the kind in their place is never asked for. -/
def Operation.build (column : Column) (target : Operator) (raw : String) : Operation :=
  let kind := column.kind.operandKind?.getD .text
  match target with
  | .compare c => .compare c ⟨kind, raw⟩
  | .between => .between ⟨kind, raw⟩ ⟨kind, ""⟩
  | .inDate => .inDate ⟨.date, dayPart raw⟩
  | .check c => .check c
  | .truth value => .truth value
  | .member m => .member m (.unchosen column.choices)

def Column.defaultOperation (c : Column) : Operation := .build c c.kind.defaultOperator ""

def Filter.defaultFor (c : Column) : Filter := ⟨c.name, c.defaultOperation⟩

/-! ## Legality -/

/-- Whether the operands and choices are those of the column, in a remembered operation too. -/
def Column.accepts (column : Column) : Operation → Bool
  | .compare c o => column.allows (.compare c) && column.kind.operandKind? = some o.kind
  | .between l u =>
    column.allows .between && column.kind.operandKind? = some l.kind &&
      column.kind.operandKind? = some u.kind
  | .inDate d => column.allows .inDate && d.kind = .date
  | .check c => column.allows (.check c)
  | .checkOver c previous => column.allows (.check c) && column.accepts previous
  | .truth value => column.allows (.truth value)
  | .member m s => column.allows (.member m) && s.choices = column.choices

end RowFilter
