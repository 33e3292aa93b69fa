import RowFilter.Proofs.Operand.Kind
import RowFilter.Proofs.Operation.Switch
import RowFilter.Proofs.Wire.ReadBack

/-!
# Days taken from moments

A day is written as the bounds of one day, and these tell which day it is. A switch from a
comparison of moments to a day keeps what stands before the first `T`, so the day of the moment is
written exactly if that part still spells it.
-/

namespace RowFilter

open RowFilter.Calendar RowFilter.Text RowFilter.Wire

namespace Wire

/-! ## The day that a group gives away -/

theorem encodeValue_inj {place : Quoted.Place} {raw raw' : String}
    (h : encodeValue place raw = encodeValue place raw') : raw = raw' := by
  have hquoted : Quoted.encode place raw.toList = Quoted.encode place raw'.toList :=
    calc Quoted.encode place raw.toList
      _ = Percent.decode (encodeValue place raw) := (Percent.Spells.encode _).decode_eq.symm
      _ = Percent.decode (encodeValue place raw') := congrArg Percent.decode h
      _ = Quoted.encode place raw'.toList := (Percent.Spells.encode _).decode_eq
  have hraw : raw.toList = raw'.toList :=
    calc raw.toList
      _ = Quoted.decode (Quoted.encode place raw.toList) := (Quoted.decode_encode ..).symm
      _ = Quoted.decode (Quoted.encode place raw'.toList) := congrArg Quoted.decode hquoted
      _ = raw'.toList := Quoted.decode_encode ..
  exact String.toList_inj.1 hraw

theorem first_eq_of_group_eq {column : String} {c : Comparison} {raw raw' : String}
    {second second' : List Char}
    (h : group (leg column c raw) second = group (leg column c raw') second') : raw = raw' := by
  have hcomma : ∀ v : String, ',' ∉ encodeValue .nested v :=
    fun v hv => absurd (Percent.mem_encode hv) (by decide)
  have hlist := congrArg String.toList h
  simp only [group, leg, String.toList_ofList, List.append_assoc, List.cons_append,
    List.append_cancel_left_eq, List.cons.injEq, true_and] at hlist
  exact encodeValue_inj (eq_of_append_cons (hcomma raw) (hcomma raw') hlist).1

theorem midnightText_inj {day day' : Date} (h : midnightText day = midnightText day') :
    day = day' := by
  have hday := dayStart?_midnightText day
  rw [h, dayStart?_midnightText] at hday
  exact (Option.some.inj hday).symm

end Wire

theorem Filter.fragments_inDate_iff {day next : Date} (hnext : day.next? = some next)
    (column raw : String) :
    Filter.fragments ⟨column, .inDate ⟨.date, raw⟩⟩ =
        [group (leg column .greaterOrEqual (midnightText day))
          (leg column .lesserThan (midnightText next))] ↔
      Date.ofText? (trim raw.toList) = some day := by
  rw [fragments_eq_singleton_iff]
  simp only [write, dayBounds?, Option.bind_eq_bind]
  constructor
  · intro h
    split at h
    · rename_i first last hbounds
      simp only [Option.bind_eq_some_iff, Option.some.injEq, Prod.mk.injEq] at hbounds
      obtain ⟨day', hday', next', -, rfl, rfl⟩ := hbounds
      obtain rfl := midnightText_inj (first_eq_of_group_eq (Except.ok.inj h))
      exact hday'
    · cases h
  · intro h
    rw [h, Option.bind_some, hnext]
    rfl

/-! ## Switches to a day -/

namespace Operation

variable {column : Column} {op : Operation} {o : Operand} {m : Moment}

theorem changeOperator_inDate (htime : column.kind = .time) (hop : op.operator ∈ Operator.ordered)
    (ho : op.operand? = some o) :
    op.changeOperator column .inDate = .inDate ⟨.date, dayPart o.raw⟩ := by
  have hallows : column.allows .inDate = true := by
    rw [Column.allows_iff, htime]
    decide
  have hordered : ∀ o ∈ Operator.ordered, o ≠ .inDate ∧ o.isCheck = false := by decide
  obtain ⟨hne, hcheck⟩ := hordered _ hop
  rw [changeOperator_of_isCheck_eq_false hallows rfl (restore_of_isCheck_eq_false hcheck _),
    if_neg hne]
  cases op with
  | compare c operand | between operand upper =>
      obtain rfl := Option.some.inj ho
      rfl
  | inDate day => exact absurd rfl hne
  | _ => cases ho

/-- A switch from a comparison of moments to a day writes the day of the moment exactly if the part
of its text before the first `T` spells this day. -/
theorem changeOperator_inDate_iff (htime : column.kind = .time)
    (hop : op.operator ∈ Operator.ordered) (ho : op.operand? = some o)
    (hvalue : o.value? = some (.time m)) (hday : m.clock.date.lt .last = true) :
    ∃ next, m.clock.date.next? = some next ∧
      op.changeOperator column .inDate = .inDate ⟨.date, dayPart o.raw⟩ ∧
        (Filter.fragments ⟨column.name, op.changeOperator column .inDate⟩ =
            [group (leg column.name .greaterOrEqual (midnightText m.clock.date))
              (leg column.name .lesserThan (midnightText next))] ↔
          KeepsDay (trim o.raw.toList)) := by
  obtain ⟨next, hnext⟩ := Option.isSome_iff_exists.1 (m.clock.date.next?_isSome_iff.2 hday)
  have hswitch := changeOperator_inDate htime hop ho
  have hblank : ∀ c, isBlank c = true → decide (c ≠ 'T') = true := by
    intro c hc
    refine decide_eq_true fun hT => ?_
    rw [hT] at hc
    exact absurd hc (by decide)
  refine ⟨next, hnext, hswitch, ?_⟩
  rw [hswitch, Filter.fragments_inDate_iff hnext, dayPart, String.toList_ofList,
    trim_takeWhile hblank]
  exact Moment.ofText?_takeWhile_iff (Operand.ofText?_of_value? hvalue)

theorem changeOperator_inDate_offset :
    let column : Column := ⟨"created", .time, [], by decide, by decide⟩
    let range : Operation := .between ⟨.time, " 2021W526T23:59+02:00"⟩ ⟨.time, ""⟩
    let date : Date := ⟨2022, 1, 1, by decide⟩
    column.kind = .time ∧ range.operator ∈ Operator.ordered ∧
      (∃ m, Operand.value? ⟨.time, " 2021W526T23:59+02:00"⟩ = some (.time m) ∧
        m.clock.date = date ∧ date.lt .last = true) ∧
      Filter.fragments ⟨column.name, range.changeOperator column .inDate⟩ =
        ["and=(created.gte.2022-01-01T00%3A00,created.lt.2022-01-02T00%3A00)"] := by
  intro column range date
  let m : Moment := ⟨⟨date, 86340000000, by decide⟩, some 7200000000⟩
  have hvalue : Operand.value? ⟨.time, " 2021W526T23:59+02:00"⟩ = some (.time m) := by
    decide +kernel
  have hkeeps : KeepsDay (trim " 2021W526T23:59+02:00".toList) := by decide +kernel
  obtain ⟨next, hnext, -, hwrite⟩ :=
    @changeOperator_inDate_iff column range ⟨.time, " 2021W526T23:59+02:00"⟩ m rfl (by decide) rfl
      hvalue rfl
  have hlast : date.next? = some ⟨2022, 1, 2, by decide⟩ := by decide +kernel
  obtain rfl := Option.some.inj (hnext.symm.trans hlast)
  refine ⟨rfl, by decide, ⟨m, hvalue, rfl, rfl⟩, ?_⟩
  rw [hwrite.2 hkeeps]
  decide +kernel

/-- Where the time of day follows after a space, the part before the first `T` is the whole text,
which spells no day. -/
theorem changeOperator_inDate_space :
    let column : Column := ⟨"created", .time, [], by decide, by decide⟩
    let later : Operation := .compare .greaterThan ⟨.time, "2021-01-02 10:00"⟩
    column.accepts later = true ∧
      (∃ m, Operand.value? ⟨.time, "2021-01-02 10:00"⟩ = some (.time m) ∧
        m.clock.date = ⟨2021, 1, 2, by decide⟩) ∧
      later.changeOperator column .inDate = .inDate ⟨.date, "2021-01-02 10:00"⟩ ∧
      Filter.fragments ⟨column.name, later.changeOperator column .inDate⟩ = [] := by
  intro column later
  let m : Moment := ⟨⟨⟨2021, 1, 2, by decide⟩, 36000000000, by decide⟩, none⟩
  have hvalue : Operand.value? ⟨.time, "2021-01-02 10:00"⟩ = some (.time m) := by decide +kernel
  exact ⟨rfl, ⟨m, hvalue, rfl⟩, by decide +kernel, by decide +kernel⟩

end Operation

end RowFilter
