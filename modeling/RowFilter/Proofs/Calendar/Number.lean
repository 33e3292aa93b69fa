import RowFilter.Proofs.Calendar.Date

/-!
# Day numbers

A number is looked up as the day that has it, so different days of one week are different days of
the calendar.
-/

namespace RowFilter.Calendar.Date

variable {year month day week n : Nat} {d : Date}

/-! ## Looking up a number -/

theorem daysBeforeMonth_succ (year : Nat) (h : 1 ≤ month) :
    daysBeforeMonth year (month + 1) = daysBeforeMonth year month + daysInMonth year month := by
  obtain ⟨m, rfl⟩ := Nat.exists_eq_add_of_le' h
  rw [daysBeforeMonth, daysBeforeMonth, Nat.add_sub_cancel, Nat.add_sub_cancel, List.range_succ,
    List.foldl_append, List.foldl_cons, List.foldl_nil]

/-- Passing a month moves its days from the rest to the days before. -/
theorem daysBeforeMonth_monthAndDay {fuel : Nat} (h : 1 ≤ month) :
    daysBeforeMonth year (monthAndDay year fuel month n).1 + (monthAndDay year fuel month n).2 =
      daysBeforeMonth year month + n := by
  induction fuel generalizing month n with
  | zero => rfl
  | succ fuel ih =>
      unfold monthAndDay
      split
      · rfl
      · rename_i hlast
        have hmonth := daysBeforeMonth_succ year h
        rw [ih (Nat.le_succ_of_le h), hmonth]
        omega

theorem number_of_ofNumber? (h : ofNumber? n = some d) : d.number = n := by
  obtain ⟨year, -, hyear⟩ := List.exists_of_findSome?_eq_some h
  split at hyear
  · rename_i hbounds
    simp only [Bool.and_eq_true, decide_eq_true_eq] at hbounds
    have hfirst : daysBeforeMonth year 1 = 0 := rfl
    have hrest := @daysBeforeMonth_monthAndDay year 1 (n - daysBeforeYear year) 11 (Nat.le_refl 1)
    generalize monthAndDay year 11 1 (n - daysBeforeYear year) = place at hyear hrest
    obtain ⟨hy, hm, hd⟩ := of?_eq_some hyear
    rw [number, hy, hm, hd]
    omega
  · cases hyear

/-! ## Days of a week -/

theorem weeksInYear_le (year : Nat) : weeksInYear year ≤ 53 := by
  unfold weeksInYear
  split <;> decide

theorem bounds_of_ofWeek? (h : ofWeek? year week day = some d) :
    1 ≤ week ∧ week ≤ 53 ∧ 1 ≤ day ∧ day ≤ 7 := by
  unfold ofWeek? at h
  split at h
  · rename_i hbounds
    simp only [Bool.and_eq_true, decide_eq_true_eq] at hbounds
    have hweeks := weeksInYear_le year
    omega
  · cases h

theorem week_lt_of_ofWeek? (h : ofWeek? year week day = some d) : week < Nat.pow 10 2 :=
  Nat.lt_of_le_of_lt (bounds_of_ofWeek? h).2.1 (by decide)

theorem day_lt_of_ofWeek? (h : ofWeek? year week day = some d) : day < Nat.pow 10 1 :=
  Nat.lt_of_le_of_lt (bounds_of_ofWeek? h).2.2.2 (by decide)

theorem daysBeforeFirstWeek_nonneg (year : Nat) : 0 ≤ daysBeforeFirstWeek year := by
  have hweekday : firstWeekday year ≤ daysBeforeYear year := Nat.mod_le ..
  simp only [daysBeforeFirstWeek]
  split <;> omega

theorem number_of_ofWeek? (h : ofWeek? year week day = some d) :
    (d.number : Int) = daysBeforeFirstWeek year + (week - 1) * 7 + day := by
  have hbounds := bounds_of_ofWeek? h
  unfold ofWeek? at h
  split at h
  · have hnumber := number_of_ofNumber? h
    have hfirst := daysBeforeFirstWeek_nonneg year
    omega
  · cases h

/-- Two days of a week are the same day of the calendar only if they are the same day of the
week. -/
theorem ofWeek?_inj {day' : Nat} (h : ofWeek? year week day = some d)
    (h' : ofWeek? year week day' = some d) : day = day' := by
  have hnumber := number_of_ofWeek? h
  have hnumber' := number_of_ofWeek? h'
  omega

end RowFilter.Calendar.Date
