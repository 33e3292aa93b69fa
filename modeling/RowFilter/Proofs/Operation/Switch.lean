import RowFilter.Operation.Edit
import RowFilter.Proofs.Operation.Accepts

/-!
# Checks and switches

A check put over an operation remembers what an earlier check remembered. So checks never nest, and
however many follow each other, the last one alone is undone. `Switch` says all that a switch to
another operator can do.
-/

namespace RowFilter

/-! ## Checks -/

namespace Operation

variable {op : Operation}

def isCheck (op : Operation) : Bool := op.operator.isCheck

@[simp] theorem operator_ofCheck (c : Check) (previous : Option Operation) :
    (ofCheck c previous).operator = .check c := by
  cases previous <;> rfl

@[simp] theorem remembered?_ofCheck (c : Check) (previous : Option Operation) :
    (ofCheck c previous).remembered? = previous := by
  cases previous <;> rfl

theorem remembered?_of_isCheck_eq_false (h : op.isCheck = false) : op.remembered? = some op := by
  cases op with
  | check c | checkOver c previous => cases h
  | _ => rfl

theorem restore_of_isCheck_eq_false (h : op.isCheck = false) (default : Operation) :
    op.restore default = op := by
  cases op with
  | check c | checkOver c previous => cases h
  | _ => rfl

/-- To undo a check is to take what it remembers. -/
theorem restore_eq (op default : Operation) : op.restore default = op.remembered?.getD default := by
  cases op <;> rfl

/-- A check that is put over itself remembers the same again. -/
theorem withCheck_eq (c : Check) (op : Operation) : op.withCheck c = ofCheck c op.remembered? := by
  unfold withCheck
  split
  · rename_i h
    cases op with
    | check d | checkOver d previous =>
        obtain rfl := Operator.check.inj h
        rfl
    | _ => cases h
  · rfl

@[simp] theorem operator_withCheck (c : Check) (op : Operation) :
    (op.withCheck c).operator = .check c := by
  rw [withCheck_eq, operator_ofCheck]

@[simp] theorem remembered?_withCheck (c : Check) (op : Operation) :
    (op.withCheck c).remembered? = op.remembered? := by
  rw [withCheck_eq, remembered?_ofCheck]

theorem restore_withCheck (c : Check) (op default : Operation) :
    (op.withCheck c).restore default = op.restore default := by
  rw [restore_eq, restore_eq, remembered?_withCheck]

end Operation

/-! ## Switches -/

def Operation.choices? : Operation → Option ChoiceSet
  | .member _ s => some s
  | _ => none

namespace Operation

variable {column : Column} {op current : Operation} {target : Operator}

/-- All that a switch to another operator can do. Unless the target is a check itself, what stands under
a check is taken back first; it stays as it is if it has the operator already. -/
inductive Switch (column : Column) (op : Operation) : Operator → Operation → Prop
  | refused {target : Operator} : column.allows target = false → Switch column op target op
  | checked {c : Check} : column.allows (.check c) = true → Switch column op (.check c) (op.withCheck c)
  | restored {current : Operation} : op.restore column.defaultOperation = current →
      column.allows current.operator = true → current.isCheck = false →
      Switch column op current.operator current
  | carried {m n : Membership} {s : ChoiceSet} : op.restore column.defaultOperation = .member n s →
      column.allows (.member m) = true → Switch column op (.member m) (.member m s)
  | built {target : Operator} {current : Operation} : op.restore column.defaultOperation = current →
      column.allows target = true → target.isCheck = false →
      (target.isMember = true → current.choices? = none) →
      Switch column op target (.build column target current.rawText)

theorem changeOperator_of_not_allows (h : column.allows target = false) :
    op.changeOperator column target = op := by
  simp only [changeOperator, h, Bool.not_false, Bool.true_or, if_true]

theorem changeOperator_check {c : Check} (h : column.allows (.check c) = true) :
    op.changeOperator column (.check c) = op.withCheck c := by
  simp only [changeOperator, h, Bool.not_true, Bool.false_or, decide_eq_true_eq, withCheck]

theorem changeOperator_of_isCheck_eq_false (hallows : column.allows target = true)
    (htarget : target.isCheck = false) (hcurrent : op.restore column.defaultOperation = current) :
    op.changeOperator column target =
      if current.operator = target then current else current.convert column target := by
  by_cases hop : op.operator = target
  · -- an operation with the target's operator is no check, so it is what is taken back
    have hcheck : op.isCheck = false := by rw [isCheck, hop, htarget]
    obtain rfl : op = current := (restore_of_isCheck_eq_false hcheck _).symm.trans hcurrent
    simp only [changeOperator, hop, decide_true, Bool.or_true, if_true]
  · cases target with
    | check c => cases htarget
    | _ => simp [changeOperator, hallows, hop, hcurrent]

theorem switch_convert (hcurrent : op.restore column.defaultOperation = current)
    (hallows : column.allows target = true) (htarget : target.isCheck = false) :
    Switch column op target (current.convert column target) := by
  cases target with
  | member m =>
      cases current with
      | member n s => exact .carried hcurrent hallows
      | _ => exact .built hcurrent hallows htarget fun _ => rfl
  | _ => exact .built hcurrent hallows htarget fun hmember => by cases hmember

theorem switch_changeOperator (column : Column) (op : Operation) (target : Operator) :
    Switch column op target (op.changeOperator column target) := by
  cases hallows : column.allows target with
  | false =>
      rw [changeOperator_of_not_allows hallows]
      exact .refused hallows
  | true =>
      cases htarget : target.isCheck with
      | true =>
          cases target with
          | check c =>
              rw [changeOperator_check hallows]
              exact .checked hallows
          | _ => cases htarget
      | false =>
          rw [changeOperator_of_isCheck_eq_false hallows htarget rfl]
          split
          · rename_i hop
            subst hop
            exact .restored rfl hallows htarget
          · exact switch_convert rfl hallows htarget

/-- A switch to an operator that the column allows ends in this operator. -/
theorem Switch.operator_eq {op' : Operation} (h : Switch column op target op')
    (hallows : column.allows target = true) : op'.operator = target := by
  cases h with
  | refused hrefused =>
      rw [hrefused] at hallows
      cases hallows
  | checked => exact operator_withCheck ..
  | restored | carried => rfl
  | built => exact Column.operator_build ..

end Operation

/-! ## Runs of checks -/

/-- The edit that puts the check over an operation. -/
def Check.edit : Check → Edit
  | .isNull => .checkNull
  | .inFuture => .toFuture
  | .inPast => .toPast

namespace Operation

variable {column : Column} {op : Operation}

theorem edit_check (c : Check) (op : Operation) : op.edit column c.edit = op.withCheck c := by
  cases c <;> rfl

theorem editAll_append (first second : List Edit) :
    op.editAll column (first ++ second) = (op.editAll column first).editAll column second :=
  List.foldl_append

theorem remembered?_editAll_checks (checks : List Check) :
    (op.editAll column (checks.map Check.edit)).remembered? = op.remembered? := by
  induction checks generalizing op with
  | nil => rfl
  | cons c checks ih =>
      show ((op.edit column c.edit).editAll column (checks.map Check.edit)).remembered? = _
      rw [ih, edit_check, remembered?_withCheck]

/-- Of several checks only the last one stands, over what stood there before the first. -/
theorem editAll_checks (hop : op.isCheck = false) (checks : List Check) (c : Check) :
    op.editAll column ((checks ++ [c]).map Check.edit) = .checkOver c op := by
  rw [List.map_append, editAll_append]
  show (op.editAll column (checks.map Check.edit)).edit column c.edit = _
  rw [edit_check, withCheck_eq, remembered?_editAll_checks, remembered?_of_isCheck_eq_false hop]
  rfl

theorem changeOperator_operator_checkOver (hop : op.isCheck = false)
    (hacc : column.accepts op = true) (c : Check) :
    (checkOver c op).changeOperator column op.operator = op := by
  rw [changeOperator_of_isCheck_eq_false (Column.allows_operator hacc) hop rfl]
  exact if_pos rfl

/-- Any run of checks over an operation is undone at once, by restoring it and, where the column
accepts it, by a switch to its own operator. A switch to a check that the column allows is the edit
that puts the check over the operation. -/
theorem restore_editAll_checks (hop : op.isCheck = false) (checks : List Check) (c : Check)
    (column : Column) :
    op.editAll column ((checks ++ [c]).map Check.edit) = .checkOver c op ∧
      (∀ default, (op.editAll column ((checks ++ [c]).map Check.edit)).restore default = op) ∧
      (column.accepts op = true →
        (op.editAll column ((checks ++ [c]).map Check.edit)).changeOperator column op.operator =
          op) ∧
      ∀ d, column.allows (.check d) = true → ∀ other : Operation,
        other.changeOperator column (.check d) = other.edit column d.edit := by
  rw [editAll_checks hop]
  refine ⟨rfl, fun _ => rfl, fun hacc => changeOperator_operator_checkOver hop hacc c, ?_⟩
  intro d hallows other
  rw [changeOperator_check hallows, edit_check]

theorem restore_editAll_checks_range :
    let column : Column := ⟨"released", .date, [], by decide, by decide⟩
    let range : Operation := .between ⟨.date, "2021-01-02"⟩ ⟨.date, "2021-0"⟩
    let checked := range.editAll column [.toFuture, .checkNull, .toFuture, .toPast]
    range.isCheck = false ∧ column.accepts range = true ∧ column.allows (.check .inPast) = true ∧
      checked = .checkOver .inPast range ∧ checked.restore (.truth true) = range ∧
      checked.changeOperator column .between = range ∧
      checked.changeOperator column (.check .inPast) = checked.toPast := by
  intro column range checked
  obtain ⟨hchecked, hrestore, hback, hswitch⟩ :=
    @restore_editAll_checks range rfl [.inFuture, .isNull, .inFuture] .inPast column
  exact ⟨rfl, rfl, rfl, hchecked, hrestore _, hback rfl, hswitch .inPast rfl _⟩

end Operation

end RowFilter
