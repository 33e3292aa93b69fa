import RowFilter.Proofs.Wire.ReadBack

/-!
# The characters of fragments

A fragment consists of unreserved characters, escapes and the marks of groups, lists and patterns,
with one equals sign, so no text in a filter can end its fragment or begin another one. A filter has
one fragment. Only a day can have none, and then there is an event instead.
-/

namespace RowFilter

open RowFilter.Calendar RowFilter.Wire

namespace Wire

/-! ## Characters -/

/-- The characters of a fragment besides ASCII letters and digits. -/
def fragmentMarks : List Char := ['-', '_', '.', '~', '%', '=', '(', ')', ',', '*']

structure IsFragment (w : List Char) : Prop where
  alphabet : ∀ c ∈ w, c.isAlphanum = true ∨ c ∈ fragmentMarks
  one_equals : w.count '=' = 1
  escapes : Percent.Escapes w

theorem mem_fragmentMarks_of_isWireChar {c : Char} (h : isWireChar c = true) :
    c.isAlphanum = true ∨ c ∈ fragmentMarks := by
  simp only [isWireChar, Percent.isUnreserved, Bool.or_eq_true, decide_eq_true_eq, or_assoc] at h
  refine h.imp_right fun hmark => ?_
  rcases hmark with rfl | rfl | rfl | rfl | rfl | rfl | rfl | rfl | rfl <;> decide

theorem Spelled.count_equals {w text : List Char} (h : Spelled w text) : w.count '=' = 0 :=
  List.count_eq_zero.2 fun hmem => absurd (h.safe _ hmem) (by decide)

theorem isFragment_spelled (key : List Char) {value text : List Char} (h : Spelled value text) :
    IsFragment (Percent.encode key ++ '=' :: value) := by
  have hkey := Spelled.encode key
  refine ⟨fun c hc => ?_, ?_, hkey.escapes.append (.cons (by decide) h.escapes)⟩
  · rcases List.mem_append.1 hc with hc | hc
    · exact mem_fragmentMarks_of_isWireChar (hkey.safe c hc)
    · rcases List.mem_cons.1 hc with rfl | hc
      · exact .inr (by decide)
      · exact mem_fragmentMarks_of_isWireChar (h.safe c hc)
  · rw [List.count_append, List.count_cons_self, hkey.count_equals, h.count_equals]

namespace IsFragment

variable {w : List Char} {c : Char}

theorem ne_nil (h : IsFragment w) : w ≠ [] := by
  rintro rfl
  cases h.one_equals

theorem not_mem (h : IsFragment w) (hc : (c.isAlphanum || c ∈ fragmentMarks) = false) : c ∉ w := by
  intro hmem
  rw [Bool.or_eq_false_iff, decide_eq_false_iff_not] at hc
  rcases h.alphabet c hmem with halpha | hmark
  · rw [hc.1] at halpha
    cases halpha
  · exact hc.2 hmark

end IsFragment

end Wire

/-! ## Days without a fragment -/

/-- The text spells no day that another one follows: none at all, or the last one of the calendar. -/
def Operand.LacksNextDay (d : Operand) : Prop :=
  Date.ofText? (Text.trim d.raw.toList) = none ∨
    Date.ofText? (Text.trim d.raw.toList) = some .last

namespace Filter

variable {f : Filter}

theorem isFragment_write {w : String} (h : f.write = .ok w) : IsFragment w.toList := by
  obtain ⟨key, value, text, -, hw, hvalue⟩ := write_spelled h
  rw [hw]
  exact isFragment_spelled key hvalue

theorem write_eq_error_iff {e : Event} : f.write = .error e ↔
    ∃ d, f.operation = .inDate d ∧ d.LacksNextDay ∧ e = .dayNotWritten f.column d.raw := by
  obtain ⟨column, op⟩ := f
  cases op with
  | inDate d =>
      have hlacks : d.LacksNextDay ↔ dayBounds? d.raw = none := dayBounds?_eq_none_iff.symm
      cases hbounds : dayBounds? d.raw with
      | none => simp [write, hbounds, hlacks, eq_comm]
      | some bounds => simp [write, hbounds, hlacks]
  | _ => simp [write]

theorem fragments_eq_nil_iff :
    f.fragments = [] ↔ ∃ d, f.operation = .inDate d ∧ d.LacksNextDay := by
  have herror : f.fragments = [] ↔ ∃ e, f.write = .error e := by
    unfold fragments
    cases f.write <;> simp [Except.toOption]
  simp only [herror, write_eq_error_iff]
  constructor
  · rintro ⟨e, d, hop, hlacks, -⟩
    exact ⟨d, hop, hlacks⟩
  · rintro ⟨d, hop, hlacks⟩
    exact ⟨_, d, hop, hlacks, rfl⟩

theorem length_fragments_le (f : Filter) : f.fragments.length ≤ 1 := by
  unfold fragments
  cases f.write <;> simp [Except.toOption]

theorem writeEvents_of_lacksNextDay {d : Operand} (hop : f.operation = .inDate d)
    (h : d.LacksNextDay) : f.writeEvents = [.dayNotWritten f.column d.raw] := by
  have hwrite : f.write = .error (.dayNotWritten f.column d.raw) :=
    write_eq_error_iff.2 ⟨d, hop, h, rfl⟩
  simp only [writeEvents, hwrite]

theorem writeEvents_of_fragments_ne_nil (h : f.fragments ≠ []) : f.writeEvents = [] := by
  cases hwrite : f.write with
  | ok w => simp only [writeEvents, hwrite]
  | error e => exact absurd (by simp [fragments, hwrite, Except.toOption]) h

end Filter

end RowFilter
