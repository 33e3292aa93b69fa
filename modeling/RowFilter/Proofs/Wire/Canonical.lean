import RowFilter.Proofs.Wire.Fragment
import RowFilter.Proofs.Wire.RoundTrip

/-!
# The form of what was read

Whatever a fragment looks like, the operation that it is read as comes in one form: a check remembers
nothing, bounds are in order, a day is spelled `YYYY-MM-DD`, choices are those of the column, and
wildcards at the ends of a text have been taken into the operator. A filter in this form is written as
one fragment.
-/

namespace RowFilter

open RowFilter.Calendar RowFilter.Wire

/-- The form in which the operations of a column are read. -/
def Operation.IsCanonical (column : Column) : Operation → Prop
  | .compare .startsWith o => o.raw.toList.head? ≠ some '*'
  | .compare .endsWith o => o.raw ≠ "" ∧ o.raw.toList.getLast? ≠ some '*'
  | .compare .. => True
  | .between l u => u.key.lt l.key = false
  | .inDate d => ∃ day : Date, day.lt .last = true ∧ d.raw = String.ofList day.text
  | .checkOver .. => False
  | .member _ s => s.choices = column.choices ∧ column.choices.Nodup
  | .check _ | .truth _ => True

namespace Wire

variable {column : Column} {text : List Char} {op : Operation}

/-! ## What is read is canonical -/

/-- A group is read as a range in order or as a day before the last one. -/
theorem readGroup?_cases {legs : List Leg} (h : readGroup? column legs = some op) :
    (∃ l u, op = .between l u ∧ u.key.lt l.key = false) ∨
      ∃ day : Date, day.lt .last = true ∧ op = .inDate ⟨.date, String.ofList day.text⟩ := by
  obtain ⟨-, ⟨low, high, hrange⟩ | ⟨-, low, high, hday⟩⟩ := readGroup?_eq_some h
  · obtain ⟨l, u, hop, -, -, hlt⟩ := range?_eq_some hrange
    exact .inl ⟨l, u, hop, hlt⟩
  · obtain ⟨day, next, hnext, hop⟩ := wholeDay?_eq_some hday
    refine .inr ⟨day, ?_, hop⟩
    rw [← Date.next?_isSome_iff, hnext, Option.isSome_some]

theorem isCanonical_of_readGroup? {legs : List Leg} (h : readGroup? column legs = some op) :
    op.IsCanonical column := by
  rcases readGroup?_cases h with ⟨l, u, rfl, hlt⟩ | ⟨day, hday, rfl⟩
  · exact hlt
  · exact ⟨day, hday, rfl⟩

/-- A wildcard at the other end of a pattern is claimed by a form that is tried before. -/
theorem isCanonical_compare {c : Comparison} {v : List Char} {o : Operand}
    (hraw : operandText? c v = some o.raw.toList) (hv : ¬Claimed c v) :
    (Operation.compare c o).IsCanonical column := by
  cases c with
  | startsWith =>
      rw [← comparand_of_isPattern rfl hraw, claimed_startsWith_iff] at hv
      exact hv
  | endsWith =>
      rw [← comparand_of_isPattern rfl hraw, claimed_endsWith_iff, String.toList_eq_nil_iff,
        not_or] at hv
      exact hv
  | _ => trivial

theorem isCanonical_of_means (hacc : column.accepts op = true) (h : Means column text op) :
    op.IsCanonical column := by
  cases h with
  | check c | truth value => trivial
  | compare hk hraw hv =>
      refine isCanonical_compare ?_ hv
      rw [String.toList_ofList, hraw]
  | member henum =>
      -- the choices that are read are listed once each, and the column lists the same
      obtain ⟨-, hchoices⟩ := Column.accepts_member_iff.1 hacc
      exact ⟨hchoices, eraseDups_eq_self_iff.1 hchoices⟩

theorem isCanonical_of_parse {fragment : String} {f : Filter}
    (h : parse column fragment = some f) : f.operation.IsCanonical column := by
  obtain ⟨key, text, -, hread, hacc, -⟩ := parse_eq_some_iff.1 h
  rcases readPlain?_cases hread with ⟨-, legs, -, hgroup⟩ | ⟨-, -, hmeans⟩
  · exact isCanonical_of_readGroup? hgroup
  · exact isCanonical_of_means hacc hmeans

end Wire

/-! ## What is canonical has a fragment -/

theorem Operand.not_lacksNextDay {d : Operand} {day : Date} (hday : day.lt .last = true)
    (hraw : d.raw = String.ofList day.text) : ¬d.LacksNextDay := by
  have hspells : Date.ofText? (Text.trim d.raw.toList) = some day := by
    rw [hraw, String.toList_ofList, day.trim_text, day.ofText?_text]
  rintro (hnone | hlast)
  · cases hnone.symm.trans hspells
  · obtain rfl : Date.last = day := Option.some.inj (hlast.symm.trans hspells)
    rw [Date.lt_irrefl] at hday
    cases hday

theorem Filter.exists_fragment_of_isCanonical {column : Column} {f : Filter}
    (h : f.operation.IsCanonical column) : ∃ w, f.fragments = [w] := by
  have hne : f.fragments ≠ [] := by
    intro hnil
    obtain ⟨d, hop, hlacks⟩ := fragments_eq_nil_iff.1 hnil
    rw [hop] at h
    obtain ⟨day, hday, hraw⟩ := h
    exact Operand.not_lacksNextDay hday hraw hlacks
  have hpos := List.length_pos_iff.2 hne
  have hle := f.length_fragments_le
  exact List.length_eq_one_iff.1 (by omega)

theorem Filter.exists_fragment_of_parse {column : Column} {fragment : String} {f : Filter}
    (h : parse column fragment = some f) : ∃ w, f.fragments = [w] :=
  exists_fragment_of_isCanonical (isCanonical_of_parse h)

end RowFilter
