import RowFilter.Proofs.Wire.ReadBack

/-!
# Which filters survive the wire

The operations that a column allows read back with a few exceptions: a pattern that takes a wildcard
of its text for its own, a bound that spells the present moment, a range in the wrong order, a day
in another form, a check with a memory and choices that are listed twice.
-/

namespace RowFilter

open RowFilter.Calendar RowFilter.Wire

def Operation.IsLossy (column : Column) : Operation → Prop
  | .compare .lesserThan o | .compare .greaterThan o => o.raw = "now"
  | .compare .startsWith o => o.raw.toList.head? = some '*'
  | .compare .endsWith o => o.raw = "" ∨ o.raw.toList.getLast? = some '*'
  | .compare .. => False
  | .between l u => u.key.lt l.key = true
  | .inDate d => ¬∃ day : Date, day.lt .last = true ∧ d.raw = String.ofList day.text
  | .checkOver .. => True
  | .member .. => ¬column.choices.Nodup
  | .check _ | .truth _ => False

namespace Wire

/-! ## Claimed values of written operands -/

theorem encode_alone_eq_now_iff {raw : List Char} :
    Quoted.encode .alone raw = "now".toList ↔ raw = "now".toList := by
  constructor
  · intro h
    rw [← Quoted.decode_encode .alone raw, h]
    decide
  · rintro rfl
    decide

theorem claimed_startsWith_iff {raw : List Char} :
    Claimed .startsWith (comparand .startsWith raw) ↔ raw.head? = some '*' := by
  constructor
  · rintro ⟨raw', h⟩
    obtain rfl := List.append_cancel_right h
    rfl
  · intro h
    obtain ⟨rest, rfl⟩ := List.head?_eq_some_iff.1 h
    exact ⟨rest, rfl⟩

theorem claimed_endsWith_iff {raw : List Char} :
    Claimed .endsWith (comparand .endsWith raw) ↔ raw = [] ∨ raw.getLast? = some '*' := by
  constructor
  · rintro ⟨raw', h⟩
    cases raw' with
    | nil =>
        obtain ⟨-, rfl⟩ := List.cons.inj h
        exact .inl rfl
    | cons c raw' =>
        obtain ⟨-, rfl⟩ := List.cons.inj h
        exact .inr List.getLast?_concat
  · rintro (rfl | h)
    · exact ⟨[], rfl⟩
    · obtain ⟨init, rfl⟩ := List.getLast?_eq_some_iff.1 h
      exact ⟨'*' :: init, rfl⟩

theorem claimed_comparand_iff {column : Column} {c : Comparison} {o : Operand} :
    Claimed c (comparand c o.raw.toList) ↔ (Operation.compare c o).IsLossy column := by
  cases c with
  | startsWith => exact claimed_startsWith_iff
  | endsWith => exact claimed_endsWith_iff.trans (or_congr_left String.toList_eq_nil_iff)
  | lesserThan | greaterThan => exact encode_alone_eq_now_iff.trans String.toList_inj
  | _ => exact Iff.rfl

end Wire

/-! ## The round trip -/

namespace Filter

variable {column : Column} {op : Operation}

theorem isLegName_of_plain
    (hname : ∀ c ∈ column.name.toList, c ≠ '.' ∧ c ≠ ',' ∧ c ≠ '(' ∧ c ≠ '"') :
    IsLegName column.name.toList := by
  refine .of_plain ?_ (fun h => (hname _ h).1 rfl) (fun c hc => ?_) (fun h => (hname _ h).2.1 rfl)
  · exact fun h => column.name_ne (String.toList_eq_nil_iff.1 h)
  · exact ⟨(hname c hc).2.2.2, (hname c hc).2.2.1⟩

/-- A filter that its column allows reads back exactly if its operation is not lossy. -/
theorem readsBack_iff_not_isLossy (hand : column.name ≠ "and")
    (hname : ∀ c ∈ column.name.toList, c ≠ '.' ∧ c ≠ ',' ∧ c ≠ '(' ∧ c ≠ '"')
    (hacc : column.accepts op = true) :
    ReadsBack column ⟨column.name, op⟩ ↔ ¬op.IsLossy column := by
  have hleg := isLegName_of_plain hname
  cases op with
  | compare c o => rw [readsBack_compare_iff hand hacc, claimed_comparand_iff]
  | between l u =>
      rw [readsBack_between_iff hleg hacc, ← Bool.not_eq_true]
      exact Iff.rfl
  | inDate d =>
      rw [readsBack_inDate_iff hleg hacc]
      exact Classical.not_not.symm
  | check c => exact iff_of_true (readsBack_check hand hacc) id
  | checkOver c previous =>
      exact iff_of_false (not_readsBack_checkOver hand hacc) (not_not_intro trivial)
  | truth value => exact iff_of_true (readsBack_truth hand hacc) id
  | member m s =>
      rw [readsBack_member_iff hand hacc]
      exact Classical.not_not.symm

theorem readsBack_startsWith_quote :
    let column : Column := ⟨"name", .text, [], by decide, by decide⟩
    column.name ≠ "and" ∧ (∀ c ∈ column.name.toList, c ≠ '.' ∧ c ≠ ',' ∧ c ≠ '(' ∧ c ≠ '"') ∧
      column.accepts (.compare .startsWith ⟨.text, "\"%*"⟩) = true ∧
        ReadsBack column ⟨column.name, .compare .startsWith ⟨.text, "\"%*"⟩⟩ := by
  intro column
  have hand : column.name ≠ "and" := by simp [column]
  have hname : ∀ c ∈ column.name.toList, c ≠ '.' ∧ c ≠ ',' ∧ c ≠ '(' ∧ c ≠ '"' := by simp [column]
  have hacc : column.accepts (.compare .startsWith ⟨.text, "\"%*"⟩) = true := rfl
  refine ⟨hand, hname, hacc, (readsBack_iff_not_isLossy hand hname hacc).2 fun h => ?_⟩
  cases h

end Filter

end RowFilter
