import RowFilter.ChoiceSet

/-!
# Choice sets and their lists

The selected choices determine a set, whatever else is listed with them.
-/

namespace RowFilter

/-! ## Lists without repetition -/

theorem nodup_eraseDups {α : Type} [BEq α] [LawfulBEq α] (xs : List α) : xs.eraseDups.Nodup := by
  match xs with
  | [] => exact List.nodup_nil
  | x :: xs =>
      rw [List.eraseDups_cons, List.nodup_cons]
      refine ⟨fun h => ?_, nodup_eraseDups _⟩
      simp [List.mem_eraseDups] at h
termination_by xs.length
decreasing_by
  exact Nat.lt_succ_of_le (List.length_filter_le ..)

theorem eraseDups_of_nodup {α : Type} [BEq α] [LawfulBEq α] {xs : List α} (h : xs.Nodup) :
    xs.eraseDups = xs := by
  induction xs with
  | nil => rfl
  | cons x xs ih =>
      obtain ⟨hx, hxs⟩ := List.nodup_cons.1 h
      have hfilter : xs.filter (fun y => !y == x) = xs := by
        rw [List.filter_eq_self]
        intro y hy
        have hne : y ≠ x := by
          rintro rfl
          exact hx hy
        simp [hne]
      rw [List.eraseDups_cons, hfilter, ih hxs]

theorem eraseDups_eq_self_iff {α : Type} [BEq α] [LawfulBEq α] {xs : List α} :
    xs.eraseDups = xs ↔ xs.Nodup := by
  constructor
  · intro h
    rw [← h]
    exact nodup_eraseDups xs
  · exact eraseDups_of_nodup

/-! ## Selected choices -/

namespace ChoiceSet

theorem mem_selected {s : ChoiceSet} {c : String} : c ∈ s.selected ↔ c ∈ s.chosen := by
  rw [selected, List.mem_filter, decide_eq_true_eq]
  exact and_iff_right_of_imp mem_choices_of_mem_chosen

theorem select_congr {choices xs ys : List String} (h : ∀ c, c ∈ xs ↔ c ∈ ys) :
    select choices xs = select choices ys := by
  simp only [select, h]

theorem select_selected (s : ChoiceSet) : select s.choices s.selected = s := by
  rw [select_congr fun _ => mem_selected, select_chosen]

/-- The selected choices of a set lead back to it exactly if no choice is listed twice. -/
theorem ofKnown_selected_eq_iff (s : ChoiceSet) :
    ofKnown s.choices s.selected = s ↔ s.choices.Nodup := by
  constructor
  · intro h
    rw [← eraseDups_eq_self_iff]
    exact congrArg choices h
  · intro h
    rw [ofKnown, eraseDups_of_nodup h, select_selected]

end ChoiceSet

end RowFilter
