import RowFilter.Proofs.Operation.Sound

/-!
# What an editor shows

While a check hides an operation, an editor goes on showing what the check remembers: the text of an
operand or a set of choices. Switches between operators keep it, those to a whole day aside, which cut
the time of day from a text.
-/

namespace RowFilter

/-- The text of an operand and a set of choices, where there are any. -/
structure Shown where
  text : Option String
  choices : Option ChoiceSet
  deriving DecidableEq

namespace Operation

variable {column : Column} {op op' current : Operation} {target : Operator}

/-! ## Contents -/

def content (op : Operation) : Shown := ⟨op.operand?.map Operand.raw, op.choices?⟩

/-- What stands under the checks, or the default of the column if they remember nothing. -/
def shown (column : Column) (op : Operation) : Shown := (op.restore column.defaultOperation).content

theorem shown_of_isCheck_eq_false (h : op.isCheck = false) : op.shown column = op.content := by
  rw [shown, restore_of_isCheck_eq_false h]

theorem isSome_operand? (op : Operation) : op.operand?.isSome = op.operator.hasOperand := by
  cases op <;> rfl

theorem isSome_choices? (op : Operation) : op.choices?.isSome = op.operator.isMember := by
  cases op <;> rfl

theorem content_build (htarget : target.isCheck = false) (hday : target ≠ .inDate)
    (hmember : target.isMember = false) (raw : String) :
    (build column target raw).content = ⟨if target.hasOperand then some raw else none, none⟩ := by
  cases target with
  | inDate => exact absurd rfl hday
  | check c => cases htarget
  | member m => cases hmember
  | compare c | between | truth value => rfl

/-- The column allows operators with operands, those with choices or those with neither, so the target
is applied to what the current operation is applied to. -/
theorem content_build_rawText (hallows : column.allows target = true)
    (htarget : target.isCheck = false) (hday : target ≠ .inDate)
    (hacc : column.accepts current = true) (hcurrent : current.isCheck = false)
    (hmember : target.isMember = true → current.choices? = none) :
    (build column target current.rawText).content = current.content := by
  have hcurrent_allows := Column.allows_operator hacc
  have hchoices : current.choices?.isSome = target.isMember := by
    rw [isSome_choices?, Column.isMember_eq hcurrent_allows hcurrent,
      Column.isMember_eq hallows htarget]
  have hoperand : current.operand?.isSome = target.hasOperand := by
    rw [isSome_operand?, Column.hasOperand_eq hcurrent_allows hcurrent,
      Column.hasOperand_eq hallows htarget]
  cases hc : current.choices? with
  | some s =>
      rw [hc] at hchoices
      rw [hmember hchoices.symm] at hc
      cases hc
  | none =>
      rw [hc] at hchoices
      rw [content_build htarget hday hchoices.symm, ← hoperand, content, hc, rawText]
      cases current.operand? <;> rfl

/-! ## Switches -/

theorem Switch.shown_eq (hswitch : Switch column op target op') (h : Sound column op)
    (hday : target ≠ .inDate) : op'.shown column = op.shown column := by
  cases hswitch with
  | refused => rfl
  | checked => rw [shown, restore_withCheck, shown]
  | restored hcurrent _ hcheck =>
      rw [shown_of_isCheck_eq_false hcheck, shown, hcurrent]
  | carried hcurrent =>
      rw [shown_of_isCheck_eq_false rfl, shown, hcurrent]
      rfl
  | @built target current hcurrent hallows htarget hmember =>
      obtain ⟨hacc, hcheck⟩ := h.current
      rw [hcurrent] at hacc hcheck
      rw [shown_of_isCheck_eq_false ((isCheck_build ..).trans htarget), shown, hcurrent]
      exact content_build_rawText hallows htarget hday hacc hcheck hmember

theorem Sound.shown_editAll (h : Sound column op) {targets : List Operator}
    (hday : .inDate ∉ targets) :
    (op.editAll column (targets.map .changeOperator)).shown column = op.shown column := by
  induction targets generalizing op with
  | nil => rfl
  | cons target targets ih =>
      obtain ⟨htarget, hday⟩ := not_or.1 (mt List.mem_cons.2 hday)
      have hswitch := switch_changeOperator column op target
      calc _ = (op.changeOperator column target).shown column := ih (h.switch hswitch) hday
        _ = op.shown column := hswitch.shown_eq h (Ne.symm htarget)

/-- A sound operation shows the text of an operand on a column that has operands, choices on a column
of choices, and nothing else. After any number of switches to operators other than a whole day it
shows the same, while each switch to an operator that the column allows ends in that operator. -/
theorem shown_switches (h : Sound column op) {targets : List Operator} (hday : .inDate ∉ targets) :
    (op.shown column).text.isSome = column.kind.operandKind?.isSome ∧
      (op.shown column).choices.isSome = decide (column.kind = .enum) ∧
      ∀ n, (op.editAll column ((targets.take n).map .changeOperator)).shown column =
          op.shown column ∧
        ∀ target, column.allows target = true →
          ((op.editAll column ((targets.take n).map .changeOperator)).changeOperator column
            target).operator = target := by
  obtain ⟨hacc, hcheck⟩ := h.current
  have hallows := Column.allows_operator hacc
  refine ⟨?_, ?_, fun n => ⟨?_, fun target => ?_⟩⟩
  · rw [shown, content, Option.isSome_map, isSome_operand?, Column.hasOperand_eq hallows hcheck]
  · rw [shown, content, isSome_choices?, Column.isMember_eq hallows hcheck]
  · exact h.shown_editAll fun hmem => hday (List.mem_of_mem_take hmem)
  · exact (switch_changeOperator column _ target).operator_eq

theorem shown_switches_moments :
    let column : Column := ⟨"created", .time, [], by decide, by decide⟩
    let op : Operation := .checkOver .isNull (.inDate ⟨.date, "2021-01-02T10:00"⟩)
    let targets : List Operator :=
      [.compare .lesserThan, .check .inFuture, .compare .contains, .between, .check .isNull]
    let later := op.editAll column ((targets.take 4).map .changeOperator)
    Sound column op ∧ .inDate ∉ targets ∧ (op.shown column).text.isSome = true ∧
      later = .between ⟨.time, "2021-01-02T10:00"⟩ ⟨.time, ""⟩ ∧
      later.shown column = op.shown column ∧ column.allows (.check .isNull) = true ∧
      (later.changeOperator column (.check .isNull)).operator = .check .isNull := by
  intro column op targets later
  have hop : Sound column op := ⟨rfl, rfl⟩
  have hday : .inDate ∉ targets := by decide
  obtain ⟨htext, -, hrun⟩ := shown_switches hop hday
  obtain ⟨hshown, hswitch⟩ := hrun 4
  exact ⟨hop, hday, htext, rfl, hshown, rfl, hswitch _ rfl⟩

end Operation

end RowFilter
