import RowFilter.Proofs.Calendar.Number

/-!
# Texts that are read as days

Digits are read back exactly as they are written, so a text with hyphens spells a day only if it is
the text of that day. `Spelling` lists all the ways in which the front of a text gives a day.
-/

namespace RowFilter.Calendar

open RowFilter.Text

/-! ## Digits -/

theorem asciiDigit?_eq_some {c : Char} {d : Nat} (h : asciiDigit? c = some d) :
    d < 10 ∧ c = Char.ofNat ('0'.toNat + d) := by
  unfold asciiDigit? at h
  split at h
  · rename_i hc
    obtain ⟨hlow, hhigh⟩ := hc
    rw [Char.le_def, UInt32.le_iff_toNat_le] at hlow hhigh
    obtain rfl := Option.some.inj h
    have hlow : 48 ≤ c.toNat := hlow
    have hhigh : c.toNat ≤ 57 := hhigh
    have hsum : '0'.toNat + (c.toNat - '0'.toNat) = c.toNat := Nat.add_sub_cancel' hlow
    rw [hsum, Char.ofNat_toNat]
    exact ⟨by show c.toNat - 48 < 10; omega, rfl⟩
  · cases h

/-- What is read as a number of a fixed width is the text of this number. -/
theorem takeDigits?_eq_some_iff {width n : Nat} {s rest : List Char} :
    takeDigits? width 0 s = some (n, rest) ↔
      n < Nat.pow 10 width ∧ s = decimalText width n ++ rest := by
  constructor
  · intro h
    induction width generalizing n rest with
    | zero =>
        cases h
        exact ⟨Nat.one_pos, rfl⟩
    | succ width ih =>
        rw [takeDigits?_succ] at h
        obtain ⟨⟨m, t⟩, hm, hlast⟩ := Option.bind_eq_some_iff.1 h
        cases t with
        | nil => cases hlast
        | cons c t =>
            simp only [takeDigits?] at hlast
            cases hd : asciiDigit? c with
            | none => simp [hd] at hlast
            | some d =>
                simp only [hd, Option.some.injEq, Prod.mk.injEq] at hlast
                obtain ⟨rfl, rfl⟩ := hlast
                obtain ⟨hlt, rfl⟩ := asciiDigit?_eq_some hd
                obtain ⟨hbound, rfl⟩ := ih hm
                have hpow : Nat.pow 10 (width + 1) = Nat.pow 10 width * 10 := rfl
                have hdiv : (10 * m + d) / 10 = m := by omega
                have hmod : (10 * m + d) % 10 = d := by omega
                refine ⟨by omega, ?_⟩
                rw [decimalText, hdiv, hmod, List.append_assoc, List.singleton_append]
  · rintro ⟨hbound, rfl⟩
    exact takeDigits?_decimalText rest hbound

theorem head?_decimalText_append {c : Char} (hc : c ∉ digitChars) (width n : Nat)
    (t : List Char) : (decimalText (width + 1) n ++ t).head? ≠ some c := by
  intro h
  obtain ⟨d, s, hs⟩ := List.exists_cons_of_length_eq_add_one (length_decimalText (width + 1) n)
  rw [hs] at h
  obtain rfl := Option.some.inj h
  exact hc (decimalText_subset_digitChars _ _ (hs ▸ List.mem_cons_self ..))

namespace Date

variable {d : Date} {hyphens : Bool} {year week : Nat} {s rest : List Char}

/-! ## Hyphens -/

/-- The hyphen between the parts of a day, in the forms that have hyphens. -/
def hyphen (hyphens : Bool) : List Char := if hyphens then ['-'] else []

theorem takeHyphen?_eq_some_iff :
    takeHyphen? hyphens s = some rest ↔ s = hyphen hyphens ++ rest := by
  cases hyphens with
  | false => exact Option.some_inj
  | true =>
      unfold takeHyphen? hyphen
      rw [if_pos rfl, if_pos rfl]
      split
      · simp [eq_comm]
      · rename_i hs
        exact iff_of_false (by simp) (hs rest)

theorem takeHyphen?_hyphen (hyphens : Bool) (rest : List Char) :
    takeHyphen? hyphens (hyphen hyphens ++ rest) = some rest :=
  takeHyphen?_eq_some_iff.2 rfl

theorem head?_hyphen_append (h : rest.head? ≠ some '-') :
    decide ((hyphen hyphens ++ rest).head? = some '-') = hyphens := by
  cases hyphens with
  | false => exact decide_eq_false h
  | true => rfl

/-- A text spells a day with hyphens exactly if it is the text of the day. -/
theorem ofDashed?_eq_some_iff : ofDashed? s = some d ↔ s = d.text := by
  constructor
  · intro h
    simp only [ofDashed?, Option.bind_eq_bind, Option.bind_eq_some_iff, Prod.exists] at h
    obtain ⟨year, s₁, hyear, s₂, hfirst, month, s₃, hmonth, s₄, hsecond, day, s₅, hday, h⟩ := h
    split at h
    · rename_i hnil
      obtain ⟨rfl, rfl, rfl⟩ := of?_eq_some h
      rw [(takeDigits?_eq_some_iff.1 hyear).2, takeHyphen?_eq_some_iff.1 hfirst,
        (takeDigits?_eq_some_iff.1 hmonth).2, takeHyphen?_eq_some_iff.1 hsecond,
        (takeDigits?_eq_some_iff.1 hday).2, hnil]
      simp [text, hyphen]
    · cases h
  · rintro rfl
    have htext : d.text = decimalText 4 d.year ++ (hyphen true ++ (decimalText 2 d.month ++
        (hyphen true ++ (decimalText 2 d.day ++ [])))) := by simp [text, hyphen]
    rw [htext, ofDashed?]
    simp only [takeDigits?_decimalText _ d.year_lt, takeDigits?_decimalText _ d.month_lt,
      takeDigits?_decimalText _ d.day_lt, takeHyphen?_hyphen, Option.bind_eq_bind, Option.bind_some,
      if_true, of?_self]

/-! ## Spellings -/

/-- The spellings of a day, with or without hyphens: by its month, by the week that begins with it
and by its week. -/
inductive Spelling (d : Date) (hyphens : Bool) : List Char → Prop
  | month {year month day : Nat} : of? year month day = some d →
      Spelling d hyphens (decimalText 4 year ++ (hyphen hyphens ++ (decimalText 2 month ++
        (hyphen hyphens ++ decimalText 2 day))))
  | week {year week : Nat} : year < Nat.pow 10 4 → ofWeek? year week 1 = some d →
      Spelling d hyphens (decimalText 4 year ++ (hyphen hyphens ++ 'W' :: decimalText 2 week))
  | weekday {year week day : Nat} : year < Nat.pow 10 4 → ofWeek? year week day = some d →
      Spelling d hyphens (decimalText 4 year ++ (hyphen hyphens ++ 'W' :: (decimalText 2 week ++
        (hyphen hyphens ++ decimalText 1 day))))

/-- The length of the spellings that name a day of a month or of a week. -/
def fullLength (hyphens : Bool) : Nat := if hyphens then 10 else 8

/-- The front of a text that is read as a day spells it, and nothing may follow a week alone. -/
theorem leading?_eq_some (h : leading? s = some d) : ∃ hyphens front rest, s = front ++ rest ∧
    Spelling d hyphens front ∧ (rest = [] ∨ front.length = fullLength hyphens) ∧
      (hyphens = false → s[4]? ≠ some '-') := by
  simp only [leading?, Option.bind_eq_bind, Option.bind_eq_some_iff, Prod.exists] at h
  obtain ⟨year, s₁, hread, s₂, hfirst, h⟩ := h
  obtain ⟨hyear, rfl⟩ := takeDigits?_eq_some_iff.1 hread
  have hfourth : (decimalText 4 year ++ s₁)[4]? = s₁.head? := by
    rw [List.getElem?_append_right (by rw [length_decimalText]), length_decimalText,
      List.head?_eq_getElem?]
  have hplain : decide (s₁.head? = some '-') = false →
      (decimalText 4 year ++ s₁)[4]? ≠ some '-' := by
    rw [hfourth]
    exact of_decide_eq_false
  clear hread hfourth
  -- from here on the hyphens are those that were found after the year
  generalize decide (s₁.head? = some '-') = hyphens at h hfirst hplain
  obtain rfl := takeHyphen?_eq_some_iff.1 hfirst
  refine ⟨hyphens, ?_⟩
  split at h
  · rename_i s₃
    simp only [leadingWeek?, Option.bind_eq_bind, Option.bind_eq_some_iff, Prod.exists] at h
    obtain ⟨week, s₄, hread, h⟩ := h
    obtain ⟨hweek, rfl⟩ := takeDigits?_eq_some_iff.1 hread
    split at h
    · rename_i hnil
      subst hnil
      exact ⟨_, [], by simp, .week hyear h, .inl rfl, hplain⟩
    · simp only [Option.bind_eq_some_iff, Prod.exists] at h
      obtain ⟨s₅, hsecond, day, s₆, hday, h⟩ := h
      rw [takeHyphen?_eq_some_iff] at hsecond
      rw [takeDigits?_eq_some_iff] at hday
      rw [hsecond, hday.2] at hplain ⊢
      refine ⟨_, s₆, by simp, .weekday hyear h, .inr ?_, hplain⟩
      cases hyphens <;> simp [hyphen, fullLength, length_decimalText]
  · simp only [Option.bind_eq_some_iff, Prod.exists] at h
    obtain ⟨month, s₃, hmonth, s₄, hsecond, day, s₅, hday, h⟩ := h
    rw [takeDigits?_eq_some_iff] at hmonth hday
    rw [takeHyphen?_eq_some_iff] at hsecond
    rw [hmonth.2, hsecond, hday.2] at hplain ⊢
    refine ⟨_, s₅, by simp, .month h, .inr ?_, hplain⟩
    cases hyphens <;> simp [hyphen, fullLength, length_decimalText]

theorem leading?_week (hyear : year < Nat.pow 10 4) (hyphens : Bool) (rest : List Char) :
    leading? (decimalText 4 year ++ (hyphen hyphens ++ 'W' :: rest)) =
      leadingWeek? year hyphens rest := by
  have hhead : ('W' :: rest).head? ≠ some '-' := by simp
  rw [leading?, takeDigits?_decimalText _ hyear]
  simp only [Option.bind_eq_bind, Option.bind_some, head?_hyphen_append hhead, takeHyphen?_hyphen]

/-- Together with a digit a week is read as its first day only if the digit is a one. -/
theorem leading?_week_append (hyear : year < Nat.pow 10 4) (hday : ofWeek? year week 1 = some d)
    {c : Char} : leading? (decimalText 4 year ++ (hyphen false ++ 'W' :: (decimalText 2 week ++
      c :: rest))) = some d ↔ c = '1' := by
  have hread : leadingWeek? year false (decimalText 2 week ++ c :: rest) =
      (asciiDigit? c).bind fun day => ofWeek? year week day := by
    rw [leadingWeek?, takeDigits?_decimalText _ (week_lt_of_ofWeek? hday)]
    cases hc : asciiDigit? c <;> simp [takeHyphen?, takeDigits?, hc]
  rw [leading?_week hyear, hread]
  constructor
  · intro h
    obtain ⟨day, hc, hday'⟩ := Option.bind_eq_some_iff.1 h
    obtain rfl := ofWeek?_inj hday hday'
    exact (asciiDigit?_eq_some hc).2
  · rintro rfl
    exact hday

theorem leading?_month {month : Nat} (hyear : year < Nat.pow 10 4) (hmonth : month < Nat.pow 10 2)
    (hyphens : Bool) (rest : List Char) :
    leading? (decimalText 4 year ++ (hyphen hyphens ++ (decimalText 2 month ++ rest))) =
      (takeHyphen? hyphens rest).bind fun s => (takeDigits? 2 0 s).bind fun (day, _) =>
        of? year month day := by
  have hhead := head?_decimalText_append (by decide : '-' ∉ digitChars) 1 month rest
  rw [leading?, takeDigits?_decimalText _ hyear]
  simp only [Option.bind_eq_bind, Option.bind_some, head?_hyphen_append hhead, takeHyphen?_hyphen]
  split
  · rename_i hweek
    have hletter := head?_decimalText_append (by decide : 'W' ∉ digitChars) 1 month rest
    rw [hweek] at hletter
    exact absurd rfl hletter
  · rw [takeDigits?_decimalText _ hmonth]
    rfl

theorem Spelling.leading? (h : Spelling d hyphens s) : leading? s = some d := by
  cases h with
  | month hday =>
      obtain ⟨rfl, rfl, rfl⟩ := of?_eq_some hday
      have hlast := takeDigits?_decimalText [] d.day_lt
      rw [List.append_nil] at hlast
      rw [leading?_month d.year_lt d.month_lt, takeHyphen?_hyphen, Option.bind_some, hlast]
      exact hday
  | @week year week hyear hday =>
      have hweek := takeDigits?_decimalText [] (week_lt_of_ofWeek? hday)
      rw [List.append_nil] at hweek
      rw [leading?_week hyear, leadingWeek?, hweek]
      exact hday
  | @weekday year week day hyear hday =>
      have hlast := takeDigits?_decimalText [] (day_lt_of_ofWeek? hday)
      rw [List.append_nil] at hlast
      have hne : hyphen hyphens ++ decimalText 1 day ≠ [] :=
        List.append_ne_nil_of_right_ne_nil _ (List.cons_ne_nil _ _)
      rw [leading?_week hyear, leadingWeek?, takeDigits?_decimalText _ (week_lt_of_ofWeek? hday)]
      simp only [Option.bind_eq_bind, Option.bind_some, if_neg hne, takeHyphen?_hyphen, hlast]
      exact hday

theorem Spelling.length (h : Spelling d hyphens s) :
    s.length = 7 ∨ s.length = 8 ∨ s.length = 10 := by
  cases h with
  | month | week | weekday => cases hyphens <;> simp [hyphen, length_decimalText]

/-- The shortest spellings are those of a week without hyphens. -/
theorem Spelling.exists_week (h : Spelling d hyphens s) (hlength : s.length = 7) :
    ∃ year week, year < Nat.pow 10 4 ∧ ofWeek? year week 1 = some d ∧
      s = decimalText 4 year ++ (hyphen false ++ 'W' :: decimalText 2 week) := by
  cases h with
  | month | weekday => cases hyphens <;> simp [hyphen, length_decimalText] at hlength
  | week hyear hday =>
      cases hyphens with
      | true => simp [hyphen, length_decimalText] at hlength
      | false => exact ⟨_, _, hyear, hday, rfl⟩

theorem hyphen_subset (hyphens : Bool) : hyphen hyphens ⊆ textChars := by
  cases hyphens <;> decide

theorem Spelling.subset (h : Spelling d hyphens s) : s ⊆ 'W' :: textChars := by
  have hhyphen := List.subset_cons_of_subset 'W' (hyphen_subset hyphens)
  have hdigits := fun width n => List.subset_cons_of_subset 'W' (decimalText_subset width n)
  cases h with
  | month | week | weekday => simp [List.append_subset, List.cons_subset, hhyphen, hdigits]

theorem Spelling.isBlank_eq_false (h : Spelling d hyphens s) {c : Char} (hc : c ∈ s) :
    isBlank c = false := by
  rcases List.mem_cons.1 (h.subset hc) with rfl | hc
  · rfl
  · exact isBlank_of_mem_textChars hc

theorem Spelling.trim_eq (h : Spelling d hyphens s) : trim s = s :=
  trim_eq_self fun _ hc => h.isBlank_eq_false hc

/-- The letter before a time of day occurs in no spelling of a day. -/
theorem Spelling.takeWhile_append (h : Spelling d hyphens s) (t : List Char) :
    (s ++ t).takeWhile (· ≠ 'T') = s ++ t.takeWhile (· ≠ 'T') := by
  apply List.takeWhile_append_of_pos
  intro c hc
  refine decide_eq_true fun hT => ?_
  exact absurd (h.subset (hT ▸ hc)) (by decide)

/-! ## Texts of the length of a day -/

theorem byteLength_append (s t : List Char) :
    byteLength (s ++ t) = byteLength s + byteLength t := by
  induction s with
  | nil => exact (Nat.zero_add _).symm
  | cons c s ih =>
      show c.utf8Size + byteLength (s ++ t) = c.utf8Size + byteLength s + byteLength t
      rw [ih, Nat.add_assoc]

theorem byteLength_of_subset (h : s ⊆ 'W' :: textChars) : byteLength s = s.length := by
  induction s with
  | nil => rfl
  | cons c s ih =>
      obtain ⟨hc, hs⟩ := List.cons_subset.1 h
      have hsize : c.utf8Size = 1 := by
        rcases List.mem_cons.1 hc with rfl | hc
        · rfl
        · exact utf8Size_of_mem_textChars hc
      show c.utf8Size + byteLength s = s.length + 1
      rw [ih hs, hsize, Nat.add_comm]

theorem byteLength_eq_zero_iff : byteLength s = 0 ↔ s = [] := by
  cases s with
  | nil => simp [byteLength]
  | cons c s =>
      have hsize := c.utf8Size_pos
      refine iff_of_false (fun h => ?_) (List.cons_ne_nil c s)
      have hsum : c.utf8Size + byteLength s = 0 := h
      omega

theorem ofText?_eq_some_iff : ofText? s = some d ↔
    (byteLength s = 7 ∨ byteLength s = 8 ∨ byteLength s = 10) ∧ leading? s = some d := by
  unfold ofText?
  simp only [Bool.or_eq_true, decide_eq_true_eq, or_assoc]
  split
  · rename_i hlength
    rw [and_iff_right hlength]
  · rename_i hlength
    exact iff_of_false (by simp) fun h => hlength h.1

theorem Spelling.ofText? (h : Spelling d hyphens s) : ofText? s = some d := by
  rw [ofText?_eq_some_iff, byteLength_of_subset h.subset]
  exact ⟨h.length, h.leading?⟩

theorem spelling_text (d : Date) : Spelling d true d.text := by
  have htext : d.text = decimalText 4 d.year ++ (hyphen true ++ (decimalText 2 d.month ++
      (hyphen true ++ decimalText 2 d.day))) := by simp [text, hyphen]
  rw [htext]
  exact .month d.of?_self

theorem ofText?_text (d : Date) : ofText? d.text = some d := d.spelling_text.ofText?

end Date

end RowFilter.Calendar
