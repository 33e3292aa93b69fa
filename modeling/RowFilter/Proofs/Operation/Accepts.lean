import RowFilter.Operation

/-!
# What columns accept

The kind of a column settles what the operators that it allows are applied to: operands, choices or
nothing. Whatever is built for an operator that a column allows is accepted by the column.
-/

namespace RowFilter

namespace Operator

def isCheck : Operator → Bool
  | .check _ => true
  | _ => false

/-- The operator is applied to an operand. -/
def hasOperand : Operator → Bool
  | .compare _ | .between | .inDate => true
  | _ => false

def isMember : Operator → Bool
  | .member _ => true
  | _ => false

end Operator

namespace Column

variable {column : Column} {o : Operator}

/-! ## Operators -/

theorem allows_iff : column.allows o = true ↔ o ∈ column.kind.operators := decide_eq_true_iff

/-- What holds of the operators of every kind holds of those that a column allows. -/
theorem of_allows {p : ColumnKind → Operator → Prop} (hall : ∀ k : ColumnKind, ∀ o ∈ k.operators, p k o)
    (h : column.allows o = true) : p column.kind o :=
  hall column.kind o (allows_iff.1 h)

theorem hasOperand_eq (h : column.allows o = true) (ho : o.isCheck = false) :
    o.hasOperand = column.kind.operandKind?.isSome := by
  refine of_allows (p := fun k o => o.isCheck = false → o.hasOperand = k.operandKind?.isSome) ?_ h ho
  intro k
  cases k <;> decide

theorem isMember_eq (h : column.allows o = true) (ho : o.isCheck = false) :
    o.isMember = decide (column.kind = .enum) := by
  refine of_allows (p := fun k o => o.isCheck = false → o.isMember = decide (k = .enum)) ?_ h ho
  intro k
  cases k <;> decide

theorem kind_of_allows_member {m : Membership} (h : column.allows (.member m) = true) :
    column.kind = .enum :=
  of_decide_eq_true (isMember_eq h rfl).symm

theorem kind_of_allows_inDate (h : column.allows .inDate = true) : column.kind = .time := by
  refine of_allows (p := fun k o => o = .inDate → k = .time) ?_ h rfl
  intro k
  cases k <;> decide

theorem allows_between (h : column.kind ∈ [ColumnKind.integer, .float, .date, .time]) :
    column.allows .between = true := by
  have hall : ∀ k ∈ [ColumnKind.integer, .float, .date, .time], Operator.between ∈ k.operators := by
    decide
  exact allows_iff.2 (hall _ h)

theorem allows_isNull (column : Column) : column.allows (.check .isNull) = true := by
  unfold allows
  cases column.kind <;> rfl

theorem allows_check (h : column.kind = .date ∨ column.kind = .time) (c : Check) :
    column.allows (.check c) = true := by
  unfold allows
  rcases h with h | h <;> rw [h] <;> cases c <;> rfl

/-! ## Accepted operations -/

theorem accepts_compare_iff {c : Comparison} {o : Operand} :
    column.accepts (.compare c o) = true ↔
      column.allows (.compare c) = true ∧ column.kind.operandKind? = some o.kind := by
  simp only [accepts, Bool.and_eq_true, decide_eq_true_eq]

theorem accepts_between_iff {l u : Operand} :
    column.accepts (.between l u) = true ↔ column.allows .between = true ∧
      column.kind.operandKind? = some l.kind ∧ column.kind.operandKind? = some u.kind := by
  simp only [accepts, Bool.and_eq_true, decide_eq_true_eq, and_assoc]

theorem accepts_inDate_iff {d : Operand} :
    column.accepts (.inDate d) = true ↔ column.allows .inDate = true ∧ d.kind = .date := by
  simp only [accepts, Bool.and_eq_true, decide_eq_true_eq]

theorem accepts_inDate (h : column.kind = .time) (raw : String) :
    column.accepts (.inDate ⟨.date, raw⟩) = true := by
  refine accepts_inDate_iff.2 ⟨?_, rfl⟩
  rw [allows, h]
  rfl

theorem accepts_checkOver_iff {c : Check} {previous : Operation} :
    column.accepts (.checkOver c previous) = true ↔
      column.allows (.check c) = true ∧ column.accepts previous = true := by
  simp only [accepts, Bool.and_eq_true]

theorem accepts_member_iff {m : Membership} {s : ChoiceSet} :
    column.accepts (.member m s) = true ↔
      column.allows (.member m) = true ∧ s.choices = column.choices := by
  simp only [accepts, Bool.and_eq_true, decide_eq_true_eq]

theorem allows_operator {op : Operation} (h : column.accepts op = true) :
    column.allows op.operator = true := by
  cases op with
  | compare c o => exact (accepts_compare_iff.1 h).1
  | between l u => exact (accepts_between_iff.1 h).1
  | inDate d => exact (accepts_inDate_iff.1 h).1
  | check c => exact h
  | checkOver c previous => exact (accepts_checkOver_iff.1 h).1
  | truth value => exact h
  | member m s => exact (accepts_member_iff.1 h).1

/-! ## Built operations -/

theorem operator_build (column : Column) (o : Operator) (raw : String) :
    (Operation.build column o raw).operator = o := by
  cases o <;> rfl

theorem accepts_build (h : column.allows o = true) (raw : String) :
    column.accepts (.build column o raw) = true := by
  cases o with
  | compare c =>
      obtain ⟨k, hk⟩ := Option.isSome_iff_exists.1 (hasOperand_eq h rfl).symm
      refine accepts_compare_iff.2 ⟨h, ?_⟩
      rw [hk, Option.getD_some]
  | between =>
      obtain ⟨k, hk⟩ := Option.isSome_iff_exists.1 (hasOperand_eq h rfl).symm
      refine accepts_between_iff.2 ⟨h, ?_, ?_⟩ <;> rw [hk, Option.getD_some]
  | inDate => exact accepts_inDate_iff.2 ⟨h, rfl⟩
  | check c | truth value => exact h
  | member m => exact accepts_member_iff.2 ⟨h, rfl⟩

theorem accepts_defaultOperation (c : Column) : c.accepts c.defaultOperation = true :=
  accepts_build (allows_iff.2 (List.mem_cons_self ..)) ""

end Column

end RowFilter
