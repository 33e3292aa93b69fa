import RowFilter.Proofs.Operation.Switch

/-!
# Runs of edits

An operation is sound on a column if the column accepts it and it is flat: no check in it remembers
another check. Every edit that fits the column keeps operations sound, and so does every run of them.
-/

namespace RowFilter

namespace Operation

/-- A check remembers nothing or an operation that is no check. -/
def IsFlat : Operation → Prop
  | .checkOver _ previous => previous.isCheck = false
  | _ => True

/-- The column accepts the operation, which is flat. -/
structure Sound (column : Column) (op : Operation) : Prop where
  accepted : column.accepts op = true
  flat : op.IsFlat

variable {column : Column} {op op' default : Operation} {target : Operator}

/-! ## Remembered operations -/

theorem isFlat_of_isCheck_eq_false (h : op.isCheck = false) : op.IsFlat := by
  cases op with
  | check c | checkOver c previous => cases h
  | _ => exact trivial

theorem Sound.of_isCheck_eq_false (hacc : column.accepts op = true) (h : op.isCheck = false) :
    Sound column op :=
  ⟨hacc, isFlat_of_isCheck_eq_false h⟩

theorem Sound.remembered? {previous : Operation} (h : Sound column op)
    (hprevious : op.remembered? = some previous) :
    column.accepts previous = true ∧ previous.isCheck = false := by
  cases op with
  | check c => cases hprevious
  | checkOver c p =>
      obtain rfl := Option.some.inj hprevious
      exact ⟨(Column.accepts_checkOver_iff.1 h.accepted).2, h.flat⟩
  | _ =>
      obtain rfl := Option.some.inj hprevious
      exact ⟨h.accepted, rfl⟩

theorem sound_ofCheck {c : Check} {previous : Option Operation}
    (hc : column.allows (.check c) = true)
    (h : ∀ p, previous = some p → column.accepts p = true ∧ p.isCheck = false) :
    Sound column (ofCheck c previous) := by
  cases previous with
  | none => exact ⟨hc, trivial⟩
  | some p =>
      obtain ⟨hacc, hcheck⟩ := h p rfl
      exact ⟨Column.accepts_checkOver_iff.2 ⟨hc, hacc⟩, hcheck⟩

theorem Sound.withCheck (h : Sound column op) {c : Check} (hc : column.allows (.check c) = true) :
    Sound column (op.withCheck c) := by
  rw [withCheck_eq]
  exact sound_ofCheck hc fun _ => h.remembered?

/-! ## Restored operations -/

theorem isCheck_build (column : Column) (target : Operator) (raw : String) :
    (build column target raw).isCheck = target.isCheck := by
  rw [isCheck, Column.operator_build]

theorem isCheck_defaultOperation (column : Column) : column.defaultOperation.isCheck = false := by
  rw [Column.defaultOperation, isCheck_build]
  cases column.kind <;> rfl

theorem Sound.restore_cases (h : Sound column op) (default : Operation) :
    op.restore default = default ∨
      column.accepts (op.restore default) = true ∧ (op.restore default).isCheck = false := by
  rw [restore_eq]
  cases hprevious : op.remembered? with
  | none => exact .inl rfl
  | some previous => exact .inr (h.remembered? hprevious)

theorem Sound.restore (h : Sound column op) (hdefault : Sound column default) :
    Sound column (op.restore default) := by
  rcases h.restore_cases default with hrestore | ⟨hacc, hcheck⟩
  · rw [hrestore]
    exact hdefault
  · exact .of_isCheck_eq_false hacc hcheck

/-- What a switch starts from is accepted and no check. -/
theorem Sound.current (h : Sound column op) :
    column.accepts (op.restore column.defaultOperation) = true ∧
      (op.restore column.defaultOperation).isCheck = false := by
  rcases h.restore_cases column.defaultOperation with hrestore | hcurrent
  · rw [hrestore]
    exact ⟨column.accepts_defaultOperation, isCheck_defaultOperation column⟩
  · exact hcurrent

theorem Sound.uncheckNull (h : Sound column op) (hdefault : Sound column default) :
    Sound column (op.uncheckNull default) := by
  unfold Operation.uncheckNull
  split
  · exact h.restore hdefault
  · exact h

/-! ## Operands -/

theorem Sound.withOperand (h : Sound column op) (raw : String) :
    Sound column (op.withOperand raw) := by
  cases op with
  | compare c o | between l u => exact ⟨h.accepted, trivial⟩
  | inDate d =>
      obtain ⟨hallows, -⟩ := Column.accepts_inDate_iff.1 h.accepted
      exact ⟨Column.accepts_inDate_iff.2 ⟨hallows, rfl⟩, trivial⟩
  | _ => exact h

theorem Sound.withBounds (h : Sound column op) (lower upper : String) :
    Sound column (op.withBounds lower upper) := by
  cases op with
  | between l u => exact ⟨h.accepted, trivial⟩
  | _ => exact h

/-! ## Switches -/

theorem Sound.switch (h : Sound column op) (hswitch : Switch column op target op') :
    Sound column op' := by
  obtain ⟨hacc, -⟩ := h.current
  cases hswitch with
  | refused => exact h
  | checked hc => exact h.withCheck hc
  | restored hcurrent _ hcheck =>
      rw [hcurrent] at hacc
      exact .of_isCheck_eq_false hacc hcheck
  | carried hcurrent hm =>
      rw [hcurrent] at hacc
      obtain ⟨-, hchoices⟩ := Column.accepts_member_iff.1 hacc
      exact ⟨Column.accepts_member_iff.2 ⟨hm, hchoices⟩, trivial⟩
  | built _ hallows htarget =>
      refine .of_isCheck_eq_false (Column.accepts_build hallows _) ?_
      rw [isCheck_build, htarget]

end Operation

/-! ## Runs -/

/-- What an edit asks of the column: the future and the past are for days and moments, and a default
is sound. -/
def Edit.Fits (column : Column) : Edit → Prop
  | .toFuture | .toPast => column.kind = .date ∨ column.kind = .time
  | .uncheckNull default | .restore default => Operation.Sound column default
  | _ => True

namespace Operation

variable {column : Column} {op : Operation}

theorem Sound.edit (h : Sound column op) {e : Edit} (he : e.Fits column) :
    Sound column (op.edit column e) := by
  cases e with
  | checkNull => exact h.withCheck column.allows_isNull
  | toFuture | toPast => exact h.withCheck (Column.allows_check he _)
  | uncheckNull default => exact h.uncheckNull he
  | restore default => exact h.restore he
  | withOperand raw => exact h.withOperand raw
  | withBounds lower upper => exact h.withBounds lower upper
  | changeOperator target => exact h.switch (switch_changeOperator column op target)

theorem Sound.editAll (h : Sound column op) {edits : List Edit}
    (hedits : ∀ e ∈ edits, e.Fits column) : Sound column (op.editAll column edits) := by
  induction edits generalizing op with
  | nil => exact h
  | cons e edits ih =>
      obtain ⟨he, hedits⟩ := List.forall_mem_cons.1 hedits
      exact ih (h.edit he) hedits

/-- Every run of edits that fit the column keeps a sound operation sound. A switch ends in its target
if the column allows that operator, and otherwise changes nothing. -/
theorem sound_editAll (h : Sound column op) {edits : List Edit}
    (hedits : ∀ e ∈ edits, e.Fits column) :
    Sound column (op.editAll column edits) ∧ ∀ (other : Operation) (target : Operator),
      (column.allows target = true → (other.changeOperator column target).operator = target) ∧
        (column.allows target = false → other.changeOperator column target = other) :=
  ⟨h.editAll hedits, fun other target =>
    ⟨(switch_changeOperator column other target).operator_eq, changeOperator_of_not_allows⟩⟩

theorem sound_editAll_moments :
    let column : Column := ⟨"created", .time, [], by decide, by decide⟩
    let default : Operation := .checkOver .inPast (.inDate ⟨.date, "2021-01-02"⟩)
    let op : Operation := .check .isNull
    let edits : List Edit := [.toFuture, .restore default, .changeOperator .between,
      .withBounds "2021-01-02T10:00" "", .checkNull, .toPast, .uncheckNull default]
    let switched := (op.editAll column edits).changeOperator column .inDate
    Sound column op ∧ (∀ e ∈ edits, e.Fits column) ∧ Sound column (op.editAll column edits) ∧
      op.editAll column edits =
        .checkOver .inPast (.between ⟨.time, "2021-01-02T10:00"⟩ ⟨.time, ""⟩) ∧
      column.allows .inDate = true ∧ switched.operator = .inDate ∧
      column.allows (.compare .contains) = false ∧
      switched.changeOperator column (.compare .contains) = switched := by
  intro column default op edits switched
  have hop : Sound column op := ⟨rfl, trivial⟩
  have hedits : ∀ e ∈ edits, e.Fits column := by
    have hdefault : Sound column default := ⟨rfl, rfl⟩
    simp [edits, Edit.Fits, column, hdefault]
  obtain ⟨hsound, hswitch⟩ := sound_editAll hop hedits
  exact ⟨hop, hedits, hsound, rfl, rfl, (hswitch _ _).1 rfl, rfl, (hswitch _ _).2 rfl⟩

end Operation

end RowFilter
