import Mathlib.Algebra.Ring.Parity
import Mathlib.Data.List.Nodup
import Mathlib.Data.List.Perm.Basic
import RowFilter.Proofs.ChoiceSet

/-!
# Runs of toggles

A choice is chosen after a run exactly if it was chosen at first or toggled an odd number of times,
but not both. So neither the order of the toggles nor a text that is no choice plays a part, and no
toggle is ever refused. A construction is refused exactly if it names values that are no choices.
-/

namespace RowFilter

/-! ## Strictly ordered lists -/

theorem eq_of_pairwise_lt {xs ys : List String} (hxs : xs.Pairwise (· < ·))
    (hys : ys.Pairwise (· < ·)) (h : ∀ x, x ∈ xs ↔ x ∈ ys) : xs = ys := by
  have hperm : xs.Perm ys :=
    (List.perm_ext_iff_of_nodup hxs.nodup hys.nodup).2 h
  exact hperm.eq_of_pairwise (fun _ _ _ _ hab hba => absurd hba (String.lt_asymm hab)) hxs hys

namespace ChoiceSet

variable {choices chosen cs ds : List String} {s t : ChoiceSet} {c d : String}

/-! ## Constructions -/

theorem mem_sorted {xs : List String} : c ∈ sorted xs ↔ c ∈ xs := List.mem_mergeSort

theorem pairwise_lt_sorted {xs : List String} (h : xs.Nodup) : (sorted xs).Pairwise (· < ·) := by
  have hle : (sorted xs).Pairwise fun a b => decide (a ≤ b) = true := by
    apply List.pairwise_mergeSort
    · intro a b c hab hbc
      rw [decide_eq_true_eq] at *
      exact String.le_trans hab hbc
    · intro a b
      rw [Bool.or_eq_true, decide_eq_true_eq, decide_eq_true_eq]
      exact String.le_total a b
  have hnodup : (sorted xs).Nodup := (List.mergeSort_perm xs _).nodup_iff.2 h
  apply (hle.and hnodup).imp
  rintro a b ⟨hab, hne⟩
  by_contra hlt
  exact hne (String.le_antisymm (of_decide_eq_true hab) (String.not_lt.1 hlt))

theorem of_eq_ok (h : ∀ c ∈ chosen, c ∈ choices) :
    of choices chosen = .ok (select choices chosen) := by
  have hunknown : chosen.filter (· ∉ choices) = [] := by
    rw [List.filter_eq_nil_iff]
    intro c hc
    simpa using h c hc
  simp only [of, hunknown]

theorem of_eq_error (h : c ∈ chosen) (hc : c ∉ choices) :
    of choices chosen = .error ⟨sorted (chosen.filter (· ∉ choices)).eraseDups⟩ := by
  have hunknown : chosen.filter (· ∉ choices) ≠ [] := by
    apply List.ne_nil_of_mem (a := c)
    simpa using ⟨h, hc⟩
  unfold of
  split
  · rename_i hnil
    exact absurd hnil hunknown
  · rfl

theorem exists_of_eq_error_iff :
    (∃ u, of choices chosen = .error u) ↔ ∃ c ∈ chosen, c ∉ choices := by
  constructor
  · rintro ⟨u, hu⟩
    by_contra hknown
    push Not at hknown
    rw [of_eq_ok hknown] at hu
    cases hu
  · rintro ⟨c, h, hc⟩
    exact ⟨_, of_eq_error h hc⟩

/-- A refusal lists the values that are no choices, in order and each once. -/
theorem of_eq_error_iff {u : UnknownChoices} :
    of choices chosen = .error u ↔
      (∃ c ∈ chosen, c ∉ choices) ∧ u.values.Pairwise (· < ·) ∧
        ∀ v, v ∈ u.values ↔ v ∈ chosen ∧ v ∉ choices := by
  have hmem : ∀ v, v ∈ sorted (chosen.filter (· ∉ choices)).eraseDups ↔
      v ∈ chosen ∧ v ∉ choices := by
    intro v
    rw [mem_sorted, List.mem_eraseDups, List.mem_filter, decide_eq_true_eq]
  have hsorted := pairwise_lt_sorted (nodup_eraseDups (chosen.filter (· ∉ choices)))
  constructor
  · intro hu
    obtain ⟨c, h, hc⟩ := exists_of_eq_error_iff.1 ⟨u, hu⟩
    rw [of_eq_error h hc] at hu
    cases hu
    exact ⟨⟨c, h, hc⟩, hsorted, hmem⟩
  · rintro ⟨⟨c, h, hc⟩, hu, hvalues⟩
    have heq : u.values = sorted (chosen.filter (· ∉ choices)).eraseDups :=
      eq_of_pairwise_lt hu hsorted fun v => (hvalues v).trans (hmem v).symm
    rw [of_eq_error h hc, ← heq]

/-! ## One toggle -/

theorem ext_chosen (hchoices : s.choices = t.choices) (h : ∀ c, c ∈ s.chosen ↔ c ∈ t.chosen) :
    s = t := by
  rw [← select_chosen s, ← select_chosen t, hchoices, select_congr h]

/-- The values chosen after one of them is taken back, or a further one is chosen. -/
def flipped (chosen : List String) (c : String) : List String :=
  if c ∈ chosen then chosen.filter (· ≠ c) else c :: chosen

theorem mem_flipped : d ∈ flipped chosen c ↔ Xor (d ∈ chosen) (d = c) := by
  unfold flipped
  split
  · rename_i hc
    rw [List.mem_filter, decide_eq_true_eq, Xor]
    constructor
    · intro h
      exact .inl h
    · rintro (h | ⟨rfl, h⟩)
      · exact h
      · exact absurd hc h
  · rename_i hc
    rw [List.mem_cons, Xor]
    constructor
    · rintro (rfl | h)
      · exact .inr ⟨rfl, hc⟩
      · refine .inl ⟨h, ?_⟩
        rintro rfl
        exact hc h
    · rintro (⟨h, -⟩ | ⟨rfl, -⟩)
      · exact .inr h
      · exact .inl rfl

/-- A toggle whose result is constructed anew, with the check that each chosen value is a choice. -/
def toggle? (s : ChoiceSet) (c : String) : Except UnknownChoices ChoiceSet :=
  if c ∈ s.choices then of s.choices (flipped s.chosen c) else .ok s

theorem toggle?_eq (s : ChoiceSet) (c : String) : s.toggle? c = .ok (s.toggle c) := by
  unfold toggle? toggle
  split
  · rename_i hc
    apply of_eq_ok
    intro d hd
    rcases mem_flipped.1 hd with ⟨h, -⟩ | ⟨rfl, -⟩
    · exact mem_choices_of_mem_chosen h
    · exact hc
  · rfl

theorem mem_chosen_toggle :
    d ∈ (s.toggle c).chosen ↔ d ∈ s.choices ∧ Xor (d ∈ s.chosen) (d = c) := by
  unfold toggle
  split
  · exact mem_chosen_select.trans (and_congr_right fun _ => mem_flipped)
  · rename_i hc
    constructor
    · intro h
      have hd := mem_choices_of_mem_chosen h
      refine ⟨hd, .inl ⟨h, ?_⟩⟩
      rintro rfl
      exact hc hd
    · rintro ⟨hd, ⟨h, -⟩ | ⟨rfl, -⟩⟩
      · exact h
      · exact absurd hd hc

/-! ## Runs -/

/-- A run of toggles that ends with the first one refused. -/
def toggleAll? (s : ChoiceSet) (cs : List String) : Except UnknownChoices ChoiceSet :=
  cs.foldlM toggle? s

theorem toggleAll?_eq (s : ChoiceSet) (cs : List String) :
    s.toggleAll? cs = .ok (s.toggleAll cs) := by
  induction cs generalizing s with
  | nil => rfl
  | cons c cs ih =>
      rw [toggleAll?, List.foldlM_cons, toggle?_eq]
      exact ih (s.toggle c)

theorem choices_toggleAll (s : ChoiceSet) (cs : List String) :
    (s.toggleAll cs).choices = s.choices := by
  induction cs generalizing s with
  | nil => rfl
  | cons c cs ih => exact (ih (s.toggle c)).trans (choices_toggle s c)

theorem xor_odd_count_cons (p : Prop) :
    Xor (Xor p (d = c)) (Odd (cs.count d)) ↔ Xor p (Odd ((c :: cs).count d)) := by
  by_cases h : d = c
  · rw [h, List.count_cons_self, Nat.odd_add_one]
    simp only [xor_iff_not_iff]
    tauto
  · rw [List.count_cons_of_ne (Ne.symm h)]
    simp only [xor_iff_not_iff, h]
    tauto

theorem mem_chosen_toggleAll :
    d ∈ (s.toggleAll cs).chosen ↔ d ∈ s.choices ∧ Xor (d ∈ s.chosen) (Odd (cs.count d)) := by
  induction cs generalizing s with
  | nil =>
      rw [List.count_nil, Xor]
      constructor
      · intro h
        exact ⟨mem_choices_of_mem_chosen h, .inl ⟨h, Nat.not_odd_zero⟩⟩
      · rintro ⟨-, ⟨h, -⟩ | ⟨h, -⟩⟩
        · exact h
        · exact absurd h Nat.not_odd_zero
  | cons c cs ih =>
      show d ∈ ((s.toggle c).toggleAll cs).chosen ↔ _
      rw [ih, choices_toggle, mem_chosen_toggle]
      apply and_congr_right
      intro hd
      rw [and_iff_right hd, xor_odd_count_cons]

/-- Two runs lead to the same set exactly if they toggle each choice equally often, up to pairs. -/
theorem toggleAll_eq_iff :
    s.toggleAll cs = s.toggleAll ds ↔ ∀ c ∈ s.choices, (Odd (cs.count c) ↔ Odd (ds.count c)) := by
  constructor
  · intro h c hc
    have hmem : c ∈ (s.toggleAll cs).chosen ↔ c ∈ (s.toggleAll ds).chosen := by rw [h]
    rw [mem_chosen_toggleAll, mem_chosen_toggleAll] at hmem
    simp only [hc, xor_iff_not_iff] at hmem
    tauto
  · intro h
    apply ext_chosen
    · rw [choices_toggleAll, choices_toggleAll]
    · intro c
      rw [mem_chosen_toggleAll, mem_chosen_toggleAll]
      apply and_congr_right
      intro hc
      rw [h c hc]

theorem toggleAll_perm (h : cs.Perm ds) : s.toggleAll cs = s.toggleAll ds := by
  rw [toggleAll_eq_iff]
  intro c _
  rw [h.count_eq]

theorem toggleAll_filter_choices :
    s.toggleAll (cs.filter (· ∈ s.choices)) = s.toggleAll cs := by
  rw [toggleAll_eq_iff]
  intro c hc
  rw [List.count_filter (by simpa using hc)]

theorem selected_toggleAll :
    (s.toggleAll cs).selected =
      s.choices.filter fun c => Xor (c ∈ s.chosen) (Odd (cs.count c)) := by
  rw [selected, choices_toggleAll]
  apply List.filter_congr
  intro c hc
  rw [decide_eq_decide, mem_chosen_toggleAll, and_iff_right hc]

theorem mem_choices_and_chosen (h : of choices chosen = .ok s ∨ s = ofKnown choices chosen) :
    (∀ c, c ∈ s.choices ↔ c ∈ choices) ∧ ∀ c, c ∈ s.chosen ↔ c ∈ choices ∧ c ∈ chosen := by
  rcases h with h | rfl
  · have hs : s = select choices chosen := by
      unfold of at h
      split at h
      · cases h
        rfl
      · cases h
    rw [hs]
    exact ⟨fun _ => .rfl, fun _ => mem_chosen_select⟩
  · refine ⟨fun _ => List.mem_eraseDups, fun c => ?_⟩
    rw [ofKnown, mem_chosen_select, List.mem_eraseDups]

/-- What a run of toggles makes of a set that was built from choices and chosen ones. -/
structure Toggles (s : ChoiceSet) (choices chosen cs : List String) (t : ChoiceSet) : Prop where
  /-- No toggle is refused. -/
  accepted : s.toggleAll? cs = .ok t
  choices_eq : t.choices = s.choices
  chosen_subset : t.chosen ⊆ t.choices
  mem_chosen_iff : ∀ c, c ∈ t.chosen ↔ c ∈ choices ∧ Xor (c ∈ chosen) (Odd (cs.count c))
  reordered : ∀ ds, cs.Perm ds → s.toggleAll? ds = .ok t
  known_only : s.toggleAll? (cs.filter (· ∈ choices)) = .ok t
  selected_eq : t.selected = s.choices.filter fun c => Xor (c ∈ chosen) (Odd (cs.count c))
  of_selected : s.choices.Nodup → ofKnown t.choices t.selected = t

theorem toggles_toggleAll (h : of choices chosen = .ok s ∨ s = ofKnown choices chosen)
    (cs : List String) : s.Toggles choices chosen cs (s.toggleAll cs) := by
  obtain ⟨hchoices, hchosen⟩ := mem_choices_and_chosen h
  have hxor : ∀ c ∈ choices, (c ∈ s.chosen ↔ c ∈ chosen) := by
    intro c hc
    rw [hchosen, and_iff_right hc]
  constructor
  case accepted => exact toggleAll?_eq s cs
  case choices_eq => exact choices_toggleAll s cs
  case chosen_subset =>
    intro c hc
    exact mem_choices_of_mem_chosen hc
  case mem_chosen_iff =>
    intro c
    rw [mem_chosen_toggleAll, hchoices]
    apply and_congr_right
    intro hc
    rw [hxor c hc]
  case reordered =>
    intro ds hds
    rw [toggleAll?_eq, toggleAll_perm hds]
  case known_only =>
    have hknown : cs.filter (· ∈ choices) = cs.filter (· ∈ s.choices) := by simp only [hchoices]
    rw [toggleAll?_eq, hknown, toggleAll_filter_choices]
  case selected_eq =>
    rw [selected_toggleAll]
    apply List.filter_congr
    intro c hc
    rw [decide_eq_decide, hxor c ((hchoices c).1 hc)]
  case of_selected =>
    intro hnodup
    rw [ofKnown_selected_eq_iff, choices_toggleAll]
    exact hnodup

/-- The refusal of values that are no choices. -/
structure Refuses (choices chosen : List String) (u : UnknownChoices) : Prop where
  ordered : u.values.Pairwise (· < ·)
  mem_values : ∀ v, v ∈ u.values ↔ v ∈ chosen ∧ v ∉ choices
  family_fault : u.fault.family = .validation
  errors_fault : u.fault.errors = u.values.map fun v =>
    .object [("field", .text "chosen"), ("value", .text v), ("reason", .text "not a known choice")]

/-- Any run of toggles on a set that was built leads to the set of those choices that were either
chosen at first or toggled an odd number of times. A construction is refused exactly if a chosen
value is no choice, and the refusal lists these values. -/
theorem toggles_of_built (choices chosen cs : List String) :
    (∀ s, of choices chosen = .ok s ∨ s = ofKnown choices chosen →
      s.Toggles choices chosen cs (s.toggleAll cs)) ∧
    ((∃ u, of choices chosen = .error u) ↔ ∃ c ∈ chosen, c ∉ choices) ∧
    ∀ u, of choices chosen = .error u ↔ (∃ c ∈ chosen, c ∉ choices) ∧ Refuses choices chosen u := by
  refine ⟨fun s h => toggles_toggleAll h cs, exists_of_eq_error_iff, fun u => ?_⟩
  rw [of_eq_error_iff]
  constructor
  · rintro ⟨hunknown, hsorted, hmem⟩
    exact ⟨hunknown, hsorted, hmem, rfl, rfl⟩
  · rintro ⟨hunknown, hrefuses⟩
    exact ⟨hunknown, hrefuses.ordered, hrefuses.mem_values⟩

/-- A choice that is listed twice is selected twice, a text that is no choice never. -/
theorem toggles_of_built_letters :
    ∃ s u, of ["b", "a", "b"] ["a"] = .ok s ∧ of ["b", "a"] ["z", "a", "y", "z"] = .error u ∧
      (s.toggleAll ["b", "x", "a", "b", "b"]).selected = ["b", "b"] ∧ "a" ∉ u.values ∧
      "z" ∈ u.values := by
  let s := select ["b", "a", "b"] ["a"]
  have hs : of ["b", "a", "b"] ["a"] = .ok s := of_eq_ok (by decide)
  have htoggles := (toggles_of_built ["b", "a", "b"] ["a"] ["b", "x", "a", "b", "b"]).1 s (.inl hs)
  have hselected : (s.toggleAll ["b", "x", "a", "b", "b"]).selected = ["b", "b"] := by
    rw [htoggles.selected_eq]
    decide
  obtain ⟨-, hrefused, hrefuses⟩ := toggles_of_built ["b", "a"] ["z", "a", "y", "z"] []
  obtain ⟨u, hu⟩ := hrefused.2 ⟨"z", by decide, by decide⟩
  have hmem := ((hrefuses u).1 hu).2.mem_values
  refine ⟨s, u, hs, hu, hselected, ?_, ?_⟩
  · rw [hmem]
    decide
  · rw [hmem]
    decide

end ChoiceSet

end RowFilter
