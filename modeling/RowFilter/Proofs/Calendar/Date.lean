import RowFilter.Calendar.DateText
import RowFilter.Proofs.Text.Blank

/-!
# Days and their texts

The text of a day consists of digits and hyphens, so it has no blanks and one byte for each
character. Every day but the last one of the calendar has a next day.
-/

namespace RowFilter.Calendar

open RowFilter.Text

/-! ## Characters of a day text -/

theorem length_decimalText (width n : Nat) : (decimalText width n).length = width := by
  induction width generalizing n with
  | zero => rfl
  | succ width ih => simp [decimalText, ih]

def digitChars : List Char := "0123456789".toList

def textChars : List Char := "0123456789-".toList

theorem digit_mem_digitChars {d : Nat} (h : d < 10) : Char.ofNat ('0'.toNat + d) ∈ digitChars := by
  revert d
  decide

theorem digitChars_subset : digitChars ⊆ textChars := List.subset_append_left digitChars ['-']

theorem digit_mem_textChars {d : Nat} (h : d < 10) : Char.ofNat ('0'.toNat + d) ∈ textChars :=
  digitChars_subset (digit_mem_digitChars h)

theorem decimalText_subset_digitChars (width n : Nat) : decimalText width n ⊆ digitChars := by
  induction width generalizing n with
  | zero => exact List.nil_subset _
  | succ width ih =>
      have hd : Char.ofNat ('0'.toNat + n % 10) ∈ digitChars :=
        digit_mem_digitChars (Nat.mod_lt _ (by decide))
      rw [decimalText, List.append_subset]
      exact ⟨ih _, List.cons_subset.2 ⟨hd, List.nil_subset _⟩⟩

theorem decimalText_subset (width n : Nat) : decimalText width n ⊆ textChars :=
  List.Subset.trans (decimalText_subset_digitChars width n) digitChars_subset

theorem isBlank_of_mem_textChars {c : Char} (h : c ∈ textChars) : isBlank c = false := by
  have hall : (textChars.all fun c => !isBlank c) = true := rfl
  simpa using List.all_eq_true.1 hall c h

theorem utf8Size_of_mem_textChars {c : Char} (h : c ∈ textChars) : c.utf8Size = 1 := by
  have hall : (textChars.all fun c => c.utf8Size == 1) = true := rfl
  simpa using List.all_eq_true.1 hall c h

theorem trim_of_subset {s : List Char} (h : s ⊆ textChars) : trim s = s :=
  trim_eq_self fun _ hc => isBlank_of_mem_textChars (h hc)

namespace Date

theorem text_subset (d : Date) : d.text ⊆ textChars := by
  have hy := decimalText_subset 4 d.year
  have hm := decimalText_subset 2 d.month
  have hd := decimalText_subset 2 d.day
  simp only [text, List.append_subset, List.cons_subset]
  exact ⟨⟨hy, by decide, hm⟩, by decide, hd⟩

theorem length_text (d : Date) : d.text.length = 10 := by
  simp [text, length_decimalText]

theorem trim_text (d : Date) : trim d.text = d.text := trim_of_subset d.text_subset

/-! ## Parts of a day -/

theorem of?_eq_some {year month day : Nat} {d : Date} (h : of? year month day = some d) :
    d.year = year ∧ d.month = month ∧ d.day = day := by
  unfold of? at h
  split at h
  · cases h
    exact ⟨rfl, rfl, rfl⟩
  · cases h

theorem of?_self (d : Date) : of? d.year d.month d.day = some d := dif_pos d.isDay

theorem daysInMonth_bounds (year month : Nat) :
    28 ≤ daysInMonth year month ∧ daysInMonth year month ≤ 31 := by
  unfold daysInMonth
  split
  · split <;> decide
  · split <;> decide

theorem year_lt (d : Date) : d.year < Nat.pow 10 4 := Nat.lt_succ_of_le d.isDay.1.2

theorem month_lt (d : Date) : d.month < Nat.pow 10 2 :=
  Nat.lt_of_le_of_lt d.isDay.2.1.2 (by decide)

theorem day_lt (d : Date) : d.day < Nat.pow 10 2 :=
  Nat.lt_of_le_of_lt (Nat.le_trans d.isDay.2.2.2 (daysInMonth_bounds _ _).2) (by decide)

/-! ## The order of days -/

theorem lt_iff {a b : Date} : a.lt b = true ↔ a.year < b.year ∨ a.year = b.year ∧
    (a.month < b.month ∨ a.month = b.month ∧ a.day < b.day) := by
  simp only [lt, Bool.or_eq_true, Bool.and_eq_true, decide_eq_true_eq]

theorem lt_asymm {a b : Date} (h : a.lt b = true) : b.lt a = false := by
  rw [lt_iff] at h
  rw [← Bool.not_eq_true, lt_iff]
  omega

theorem lt_irrefl (a : Date) : a.lt a = false := by
  rw [← Bool.not_eq_true, lt_iff]
  omega

theorem lt_or_eq_or_lt (a b : Date) : a.lt b = true ∨ a = b ∨ b.lt a = true := by
  obtain ⟨y, m, d, h⟩ := a
  obtain ⟨y', m', d', h'⟩ := b
  simp only [lt_iff, mk.injEq]
  omega

/-! ## The last day -/

def last : Date := ⟨maxYear, 12, 31, by decide⟩

theorem of?_isSome_iff {year month day : Nat} :
    (of? year month day).isSome = true ↔ IsDay year month day := by
  unfold of?
  split <;> simp_all

theorem lt_last_iff (d : Date) :
    d.lt last = true ↔ d.year < maxYear ∨ d.month < 12 ∨ d.day < daysInMonth d.year 12 := by
  obtain ⟨⟨_, hyear⟩, ⟨_, hmonth⟩, _, hday⟩ := d.isDay
  have hlast : daysInMonth d.year 12 = 31 := rfl
  have hbounds := daysInMonth_bounds d.year d.month
  rw [lt_iff, hlast]
  unfold last maxYear at *
  simp only
  omega

/-- Exactly the days before the last one have a next day. -/
theorem next?_isSome_iff (d : Date) : d.next?.isSome = true ↔ d.lt last = true := by
  obtain ⟨⟨hyear1, hyear⟩, ⟨hmonth1, hmonth⟩, hday1, hday⟩ := d.isDay
  rw [lt_last_iff]
  unfold next?
  split
  · rename_i hlt
    have htrue : IsDay d.year d.month (d.day + 1) :=
      ⟨⟨hyear1, hyear⟩, ⟨hmonth1, hmonth⟩, by omega, by omega⟩
    refine iff_of_true (of?_isSome_iff.2 htrue) ?_
    rcases Nat.lt_or_eq_of_le hmonth with hm | hm
    · exact .inr (.inl hm)
    · exact .inr (.inr (hm ▸ hlt))
  · rename_i hlt
    split
    · rename_i hm
      have hbounds := daysInMonth_bounds d.year (d.month + 1)
      have htrue : IsDay d.year (d.month + 1) 1 :=
        ⟨⟨hyear1, hyear⟩, ⟨by omega, by omega⟩, by omega, by omega⟩
      exact iff_of_true (of?_isSome_iff.2 htrue) (.inr (.inl hm))
    · rename_i hm
      have hdec : d.month = 12 := by omega
      have hbounds := daysInMonth_bounds (d.year + 1) 1
      rw [hdec] at hlt
      rw [of?_isSome_iff]
      constructor
      · rintro ⟨⟨_, hnext⟩, _⟩
        exact .inl hnext
      · rintro (hnext | hnext | hnext)
        · exact ⟨⟨by omega, hnext⟩, ⟨by omega, by omega⟩, by omega, by omega⟩
        · exact absurd hnext hm
        · exact absurd hnext hlt

theorem last_lt (d : Date) : last.lt d = false := by
  obtain ⟨⟨_, hyear⟩, ⟨_, hmonth⟩, _, hday⟩ := d.isDay
  have hbounds := daysInMonth_bounds d.year d.month
  rw [← Bool.not_eq_true, lt_iff]
  unfold last maxYear at *
  simp only
  omega

theorem next?_eq_none_iff {d : Date} : d.next? = none ↔ d = last := by
  rw [← Option.not_isSome_iff_eq_none, next?_isSome_iff]
  constructor
  · intro h
    rcases lt_or_eq_or_lt d last with hlt | rfl | hlt
    · exact absurd hlt h
    · rfl
    · rw [last_lt] at hlt
      cases hlt
  · rintro rfl
    rw [lt_irrefl]
    exact Bool.false_ne_true

end Date

end RowFilter.Calendar
