import RowFilter.Calendar.MomentText
import RowFilter.Proofs.Calendar.DateText

/-!
# Texts that are read as moments

A text that is read as a moment begins with a spelling of its day, and a time of day begins with two
digits. So the part before the first `T` is read as the same day if nothing but a `T` follows the
day, and otherwise only if what follows passes for a day of the week.
-/

namespace RowFilter.Calendar

open RowFilter.Text

variable {s t : List Char} {m : Moment} {d : Date} {hyphens : Bool}

/-! ## The day of a moment -/

/-- No width exceeds that of a full spelling, with or without hyphens. -/
theorem dateWidth_le (s : List Char) :
    dateWidth s ≤ 10 ∧ (s[4]? ≠ some '-' → dateWidth s ≤ 8) := by
  unfold dateWidth
  grind

/-- The characters that count as the day of a moment leave nothing over. -/
theorem spelling_take (h : Date.leading? (s.take (dateWidth s)) = some d) :
    ∃ hyphens, d.Spelling hyphens (s.take (dateWidth s)) := by
  obtain ⟨hyphens, front, rest, hs, hspelling, hrest, hplain⟩ := Date.leading?_eq_some h
  obtain ⟨hwidth, hwidthPlain⟩ := dateWidth_le s
  have hlength : front.length + rest.length ≤ dateWidth s := by
    rw [← List.length_append, ← hs]
    exact List.length_take_le _ _
  have hnil : rest = [] := by
    rcases hrest with hnil | hfull
    · exact hnil
    · -- a full spelling takes up all of the width
      have hle : dateWidth s ≤ Date.fullLength hyphens := by
        cases hyphens with
        | true => exact hwidth
        | false =>
            apply hwidthPlain
            have hfourth := hplain rfl
            have hlt : 4 < dateWidth s := by
              have hfull : front.length = 8 := hfull
              omega
            rwa [List.getElem?_take_of_lt hlt] at hfourth
      exact List.length_eq_zero_iff.1 (by omega)
  rw [hs, hnil, List.append_nil]
  exact ⟨hyphens, hspelling⟩

theorem ClockReading.exists_of_read? {c : ClockReading} (h : ClockReading.read? s = some c) :
    ∃ hour rest, s = decimalText 2 hour ++ rest := by
  simp only [ClockReading.read?, ClockReading.readParts?, Option.bind_eq_bind,
    Option.bind_eq_some_iff, Prod.exists] at h
  obtain ⟨hour, rest, hread, -⟩ := h
  exact ⟨hour, rest, (takeDigits?_eq_some_iff.1 hread).2⟩

theorem LocalTime.date_of_of? {micros : Nat} {t : LocalTime}
    (h : LocalTime.of? d micros = some t) : t.date = d := by
  unfold LocalTime.of? at h
  split at h
  · cases h
    rfl
  · cases h

/-- A time of day keeps the date, and has the offset that is read after its mark, if there is one. -/
theorem exists_of_readTime? (h : readTime? d t = some m) :
    m.clock.date = d ∧ (∃ c, ClockReading.read? (t.takeWhile (!isOffsetMark ·)) = some c) ∧
      (m.offset = none ∨ ∃ mark rest offset, readOffset? mark rest = some offset ∧
        m.offset = some offset) := by
  have hlast : ∀ {p : Prop} [Decidable p] {micros : Nat} {offset : Option Int},
      (if p then (LocalTime.of? d micros).map (Moment.mk · offset) else none) = some m →
        m.clock.date = d ∧ m.offset = offset := by
    intro p _ micros offset h
    split at h
    · obtain ⟨clock, hdate, rfl⟩ := Option.map_eq_some_iff.1 h
      exact ⟨LocalTime.date_of_of? hdate, rfl⟩
    · cases h
  simp only [readTime?, Option.bind_eq_bind, Option.bind_eq_some_iff] at h
  obtain ⟨c, hclock, h⟩ := h
  split at h
  · split at h
    · obtain ⟨hdate, hnone⟩ := hlast h
      exact ⟨hdate, ⟨c, hclock⟩, .inl hnone⟩
    · cases h
  · obtain ⟨offset?, hread, h⟩ := Option.bind_eq_some_iff.1 h
    obtain ⟨offset, hoffset, rfl⟩ := Option.map_eq_some_iff.1 hread
    obtain ⟨hdate, hsome⟩ := hlast h
    exact ⟨hdate, ⟨c, hclock⟩, .inr ⟨_, _, offset, hoffset, hsome⟩⟩

theorem readTime?_eq_some (h : readTime? d t = some m) :
    m.clock.date = d ∧ ∃ hour rest, t = decimalText 2 hour ++ rest := by
  obtain ⟨hdate, ⟨c, hclock⟩, -⟩ := exists_of_readTime? h
  obtain ⟨hour, rest, hstart⟩ := ClockReading.exists_of_read? hclock
  refine ⟨hdate, hour, rest ++ t.dropWhile (!isOffsetMark ·), ?_⟩
  rw [← List.append_assoc, ← hstart, List.takeWhile_append_dropWhile]

theorem Moment.ofText?_eq_some (h : Moment.ofText? s = some m) :
    (∃ hyphens, m.clock.date.Spelling hyphens (s.take (dateWidth s))) ∧
      (s.drop (dateWidth s) = [] ∨
        ∃ sep hour rest, s.drop (dateWidth s) = sep :: (decimalText 2 hour ++ rest)) := by
  simp only [Moment.ofText?, Option.bind_eq_bind, Option.bind_eq_some_iff] at h
  obtain ⟨d, hleading, h⟩ := h
  have hspelling := spelling_take hleading
  split at h
  · rename_i hnil
    obtain ⟨clock, hdate, rfl⟩ := Option.map_eq_some_iff.1 h
    obtain rfl := LocalTime.date_of_of? hdate
    exact ⟨hspelling, .inl hnil⟩
  · rename_i sep time htail
    obtain ⟨rfl, hour, rest, rfl⟩ := readTime?_eq_some h
    exact ⟨hspelling, .inr ⟨sep, hour, rest, htail⟩⟩

/-! ## The part before the time of day -/

/-- The part before the first `T` still spells the day of a moment: only a `T` may follow the day,
or the hour alone after a week and a one, which then is read as the first day of the week. -/
def KeepsDay (s : List Char) : Prop :=
  s[dateWidth s]? = none ∨ s[dateWidth s]? = some 'T' ∨
    (dateWidth s = 7 ∧ s[dateWidth s]? = some '1' ∧ (trim (s.takeWhile (· ≠ 'T'))).length = 10)

instance (s : List Char) : Decidable (KeepsDay s) := inferInstanceAs (Decidable (_ ∨ _))

/-- The hour ends in a character that is no blank, so only blanks after it are taken away. -/
theorem Date.Spelling.trim_hour (h : d.Spelling hyphens s) (sep : Char) (hour : Nat)
    (t : List Char) : trim (s ++ sep :: (decimalText 2 hour ++ t)) =
      s ++ sep :: (decimalText 2 hour ++ trimEnd t) := by
  have hdigit : isBlank (Char.ofNat ('0'.toNat + hour % 10)) = false :=
    isBlank_of_mem_textChars (digit_mem_textChars (Nat.mod_lt _ (by decide)))
  have hhour : decimalText 2 hour =
      decimalText 1 (hour / 10) ++ [Char.ofNat ('0'.toNat + hour % 10)] := rfl
  cases s with
  | nil => exact absurd h.length (by decide)
  | cons b s =>
      have hfirst := h.isBlank_eq_false (List.mem_cons_self ..)
      have htrim := trim_append_cons hfirst hdigit (s ++ sep :: decimalText 1 (hour / 10)) t
      rw [hhour]
      simpa using htrim

theorem byteLength_hour (s : List Char) (sep : Char) (hour : Nat) (t : List Char)
    (hs : s ⊆ 'W' :: textChars) : Date.byteLength (s ++ sep :: (decimalText 2 hour ++ t)) =
      s.length + (sep.utf8Size + (2 + Date.byteLength t)) := by
  have hhour := List.subset_cons_of_subset 'W' (decimalText_subset 2 hour)
  rw [Date.byteLength_append, Date.byteLength_of_subset hs]
  show s.length + (sep.utf8Size + Date.byteLength (decimalText 2 hour ++ t)) = _
  rw [Date.byteLength_append, Date.byteLength_of_subset hhour, length_decimalText]

/-- No text of the length of a day has room for the hour, unless the day is a week without
hyphens; then the separator is read as the day of the week. -/
theorem Date.Spelling.ofText?_hour_iff {sep : Char} {hour : Nat} (h : d.Spelling hyphens s) :
    Date.ofText? (s ++ sep :: (decimalText 2 hour ++ t)) = some d ↔
      s.length = 7 ∧ sep = '1' ∧ t = [] := by
  rw [Date.ofText?_eq_some_iff, byteLength_hour s sep hour t h.subset]
  have hlead : s.length = 7 →
      (Date.leading? (s ++ sep :: (decimalText 2 hour ++ t)) = some d ↔ sep = '1') := by
    intro hlength
    obtain ⟨year, week, hyear, hday, rfl⟩ := h.exists_week hlength
    simpa using Date.leading?_week_append hyear hday
  constructor
  · rintro ⟨hlength, hread⟩
    have hdays := h.length
    have hsep := sep.utf8Size_pos
    have hseven : s.length = 7 := by omega
    have hnil : Date.byteLength t = 0 := by omega
    exact ⟨hseven, (hlead hseven).1 hread, Date.byteLength_eq_zero_iff.1 hnil⟩
  · rintro ⟨hseven, rfl, rfl⟩
    exact ⟨.inr (.inr (by rw [hseven]; rfl)), (hlead hseven).2 rfl⟩

theorem takeWhile_hour {sep : Char} (hsep : sep ≠ 'T') (hour : Nat) (t : List Char) :
    (sep :: (decimalText 2 hour ++ t)).takeWhile (· ≠ 'T') =
      sep :: (decimalText 2 hour ++ t.takeWhile (· ≠ 'T')) := by
  have hdigits : ∀ c ∈ decimalText 2 hour, decide (c ≠ 'T') = true := by
    intro c hc
    refine decide_eq_true fun hT => ?_
    exact absurd (decimalText_subset_digitChars 2 hour (hT ▸ hc)) (by decide)
  rw [List.takeWhile_cons_of_pos (by simpa using hsep), List.takeWhile_append_of_pos hdigits]

/-- Of the text of a moment, the part before the first `T` is read as its day exactly if the day is
kept. -/
theorem Moment.ofText?_takeWhile_iff (h : Moment.ofText? s = some m) :
    Date.ofText? (trim (s.takeWhile (· ≠ 'T'))) = some m.clock.date ↔ KeepsDay s := by
  obtain ⟨⟨hyphens, hspelling⟩, htail⟩ := Moment.ofText?_eq_some h
  have hnext : s[dateWidth s]? = (s.drop (dateWidth s)).head? := List.head?_drop.symm
  have hpart : s.takeWhile (· ≠ 'T') =
      s.take (dateWidth s) ++ (s.drop (dateWidth s)).takeWhile (· ≠ 'T') := by
    rw [← hspelling.takeWhile_append, List.take_append_drop]
  unfold KeepsDay
  rw [hnext, hpart]
  rcases htail with hnil | ⟨sep, hour, rest, hsep⟩
  · rw [hnil, List.takeWhile_nil, List.append_nil, hspelling.trim_eq]
    exact iff_of_true hspelling.ofText? (.inl rfl)
  · rw [hsep, List.head?_cons]
    by_cases hT : sep = 'T'
    · subst hT
      rw [List.takeWhile_cons_of_neg (by simp), List.append_nil, hspelling.trim_eq]
      exact iff_of_true hspelling.ofText? (.inr (.inl rfl))
    · -- the cut, if there is one, comes after the hour
      have hlength : (s.take (dateWidth s)).length = dateWidth s := by
        have hrest := congrArg List.length hsep
        rw [List.length_drop, List.length_cons] at hrest
        rw [List.length_take]
        omega
      rw [takeWhile_hour hT, hspelling.trim_hour, hspelling.ofText?_hour_iff, hlength]
      simp only [Option.some.injEq, hT, reduceCtorEq, false_or, and_congr_right_iff]
      intro hseven _
      rw [List.length_append, hlength, hseven, List.length_cons, List.length_append,
        length_decimalText, ← List.length_eq_zero_iff]
      omega

/-- In a week without hyphens the separator may name the first day, or another one. -/
example : KeepsDay "2021W01110".toList ∧ ¬KeepsDay "2021W01210".toList := by decide

end RowFilter.Calendar
