import RowFilter.Proofs.Calendar.MomentText
import RowFilter.Proofs.Calendar.Number

/-!
# Instants

Days follow each other with their numbers, so local times count the microseconds of the calendar. A
moment with an offset names one such instant; universal time is the local time at that instant, if the
calendar reaches that far.
-/

namespace RowFilter.Calendar

/-! ## Numbers of days in order -/

namespace Date

variable {d e : Date} {year month : Nat}

def daysInYear (year : Nat) : Nat := if isLeap year then 366 else 365

theorem daysBeforeYear_succ (h : 1 ≤ year) :
    daysBeforeYear (year + 1) = daysBeforeYear year + daysInYear year := by
  obtain ⟨y, rfl⟩ := Nat.exists_eq_add_of_le' h
  -- each quotient grows by one in the years that it counts
  have h4 : (y + 1) / 4 = y / 4 + if (y + 1) % 4 = 0 then 1 else 0 := by split <;> omega
  have h100 : (y + 1) / 100 = y / 100 + if (y + 1) % 100 = 0 then 1 else 0 := by split <;> omega
  have h400 : (y + 1) / 400 = y / 400 + if (y + 1) % 400 = 0 then 1 else 0 := by split <;> omega
  have hcentury : (y + 1) % 100 = 0 → (y + 1) % 4 = 0 := by omega
  have hfourth : (y + 1) % 400 = 0 → (y + 1) % 100 = 0 := by omega
  have hle : y / 100 ≤ y := Nat.div_le_self ..
  simp only [daysBeforeYear, daysInYear, isLeap, Nat.add_sub_cancel, h4, h100, h400]
  by_cases hm4 : (y + 1) % 4 = 0
  · by_cases hm100 : (y + 1) % 100 = 0
    · by_cases hm400 : (y + 1) % 400 = 0 <;> simp [hm4, hm100, hm400] <;> omega
    · have hm400 : (y + 1) % 400 ≠ 0 := fun hm => hm100 (hfourth hm)
      simp [hm4, hm100, hm400]
      omega
  · have hm100 : (y + 1) % 100 ≠ 0 := fun hm => hm4 (hcentury hm)
    have hm400 : (y + 1) % 400 ≠ 0 := fun hm => hm100 (hfourth hm)
    simp [hm4, hm100, hm400]
    omega

theorem daysBeforeYear_le {year' : Nat} (hyear : 1 ≤ year) (h : year ≤ year') :
    daysBeforeYear year ≤ daysBeforeYear year' := by
  induction h with
  | refl => exact Nat.le_refl _
  | @step y hle ih =>
      have hsucc := daysBeforeYear_succ (Nat.le_trans hyear hle)
      rw [Nat.succ_eq_add_one]
      omega

/-- December ends the year. -/
theorem daysBeforeMonth_twelve (year : Nat) : daysBeforeMonth year 12 + 31 = daysInYear year := by
  unfold daysInYear
  cases h : isLeap year <;> simp [daysBeforeMonth, daysInMonth, h, List.range_succ]

theorem daysBeforeMonth_le (year : Nat) {month' : Nat} (hmonth : 1 ≤ month) (h : month ≤ month') :
    daysBeforeMonth year month ≤ daysBeforeMonth year month' := by
  induction h with
  | refl => exact Nat.le_refl _
  | @step m hle ih =>
      have hsucc := daysBeforeMonth_succ year (Nat.le_trans hmonth hle)
      rw [Nat.succ_eq_add_one]
      omega

theorem daysBeforeMonth_add_day_le {month' : Nat} (h : d.month < month') :
    daysBeforeMonth d.year d.month + d.day ≤ daysBeforeMonth d.year month' := by
  obtain ⟨-, ⟨hmonth, -⟩, -, hday⟩ := d.isDay
  have hsucc := daysBeforeMonth_succ d.year hmonth
  have hle := daysBeforeMonth_le d.year (Nat.le_add_left 1 d.month) h
  omega

theorem number_bounds (d : Date) :
    daysBeforeYear d.year < d.number ∧ d.number ≤ daysBeforeYear (d.year + 1) := by
  obtain ⟨⟨hyear, -⟩, ⟨hmonth, hlast⟩, hday, hle⟩ := d.isDay
  have hend : daysBeforeMonth d.year d.month + d.day ≤ daysInYear d.year := by
    rcases Nat.lt_or_eq_of_le hlast with h | h
    · have := daysBeforeMonth_add_day_le (d := d) h
      have := daysBeforeMonth_twelve d.year
      omega
    · have htwelve := daysBeforeMonth_twelve d.year
      have hdec : daysInMonth d.year 12 = 31 := rfl
      rw [h] at hle ⊢
      omega
  rw [daysBeforeYear_succ hyear, number]
  omega

theorem number_lt_of_lt (h : d.lt e = true) : d.number < e.number := by
  rcases lt_iff.1 h with hyear | ⟨hyear, hmonth | ⟨hmonth, hday⟩⟩
  · have hle := daysBeforeYear_le (Nat.le_add_left 1 d.year) hyear
    have hd := d.number_bounds
    have he := e.number_bounds
    omega
  · have hle := daysBeforeMonth_add_day_le hmonth
    have hday := e.isDay.2.2.1
    rw [number, number, ← hyear]
    omega
  · rw [number, number, hyear, hmonth]
    omega

theorem number_lt_iff : d.number < e.number ↔ d.lt e = true := by
  refine ⟨fun h => ?_, number_lt_of_lt⟩
  rcases lt_or_eq_or_lt d e with hlt | rfl | hlt
  · exact hlt
  · exact absurd h (Nat.lt_irrefl _)
  · exact absurd (number_lt_of_lt hlt) (Nat.lt_asymm h)

theorem number_inj (h : d.number = e.number) : d = e := by
  rcases lt_or_eq_or_lt d e with hlt | heq | hlt
  · exact absurd (number_lt_of_lt hlt) (by omega)
  · exact heq
  · exact absurd (number_lt_of_lt hlt) (by omega)

/-! ## Neighbours -/

theorem number_of_next? (h : d.next? = some e) : e.number = d.number + 1 := by
  obtain ⟨⟨hyear, -⟩, ⟨hmonth, hlast⟩, -, hday⟩ := d.isDay
  unfold next? at h
  split at h
  · obtain ⟨hy, hm, hd⟩ := of?_eq_some h
    rw [number, number, hy, hm, hd]
    omega
  split at h
  · obtain ⟨hy, hm, hd⟩ := of?_eq_some h
    have hsucc := daysBeforeMonth_succ d.year hmonth
    rw [number, number, hy, hm, hd]
    omega
  · obtain ⟨hy, hm, hd⟩ := of?_eq_some h
    have htwelve : d.month = 12 := by omega
    have hend := daysBeforeMonth_twelve d.year
    have hdec : daysInMonth d.year 12 = 31 := rfl
    have hfirst : daysBeforeMonth (d.year + 1) 1 = 0 := rfl
    have hsucc := daysBeforeYear_succ hyear
    rw [htwelve] at hday
    rw [number, number, hy, hm, hd, htwelve]
    rename_i hlt _
    rw [htwelve] at hlt
    omega

theorem number_of_prev? (h : d.prev? = some e) : e.number + 1 = d.number := by
  obtain ⟨⟨hyear, -⟩, ⟨hmonth, hlast⟩, hday, -⟩ := d.isDay
  unfold prev? at h
  split at h
  · obtain ⟨hy, hm, hd⟩ := of?_eq_some h
    rw [number, number, hy, hm, hd]
    omega
  split at h
  · obtain ⟨hy, hm, hd⟩ := of?_eq_some h
    have hprev : 1 ≤ d.month - 1 := by omega
    have hsucc := daysBeforeMonth_succ d.year hprev
    rw [Nat.sub_add_cancel hmonth] at hsucc
    rw [number, number, hy, hm, hd]
    omega
  · obtain ⟨hy, hm, hd⟩ := of?_eq_some h
    have hfirst : daysBeforeMonth d.year 1 = 0 := rfl
    have hone : d.month = 1 := by omega
    have hyear' := e.isDay.1.1
    have hend := daysBeforeMonth_twelve e.year
    have hsucc := daysBeforeYear_succ hyear'
    rw [hy, Nat.sub_add_cancel hyear] at hsucc
    rw [hy] at hend
    rw [number, number, hy, hm, hd, hone]
    omega

theorem prev?_isSome (h : d.number ≠ 1) : d.prev?.isSome = true := by
  obtain ⟨⟨hyear, hmax⟩, ⟨hmonth, hlast⟩, hday, hle⟩ := d.isDay
  unfold prev?
  split
  · exact of?_isSome_iff.2 ⟨⟨hyear, hmax⟩, ⟨hmonth, hlast⟩, by omega, by omega⟩
  split
  · have hbounds := daysInMonth_bounds d.year (d.month - 1)
    exact of?_isSome_iff.2 ⟨⟨hyear, hmax⟩, ⟨by omega, by omega⟩, by omega, by omega⟩
  · have hbounds : daysInMonth (d.year - 1) 12 = 31 := rfl
    refine of?_isSome_iff.2 ⟨⟨?_, by omega⟩, ⟨by omega, by omega⟩, by omega, by omega⟩
    by_contra hfirst
    apply h
    have hy : d.year = 1 := by omega
    have hm : d.month = 1 := by omega
    have hd : d.day = 1 := by omega
    rw [number, hy, hm, hd]
    rfl

theorem next?_eq_some_iff : d.next? = some e ↔ e.number = d.number + 1 := by
  refine ⟨number_of_next?, fun h => ?_⟩
  cases hnext : d.next? with
  | none =>
      obtain rfl := next?_eq_none_iff.1 hnext
      have hlt : last.lt e = true := number_lt_iff.1 (by omega)
      rw [last_lt] at hlt
      cases hlt
  | some e' =>
      have hnumber := number_of_next? hnext
      rw [number_inj (hnumber.trans h.symm)]

theorem number_pos (d : Date) : 1 ≤ d.number := Nat.le_trans d.isDay.2.2.1 (Nat.le_add_left ..)

theorem prev?_eq_some_iff : d.prev? = some e ↔ e.number + 1 = d.number := by
  refine ⟨number_of_prev?, fun h => ?_⟩
  have hpos := e.number_pos
  obtain ⟨e', hprev⟩ := Option.isSome_iff_exists.1 (prev?_isSome (d := d) (by omega))
  have hnumber := number_of_prev? hprev
  rw [hprev, number_inj (d := e') (e := e) (by omega)]

end Date

/-! ## Elapsed time -/

namespace LocalTime

variable {t u : LocalTime}

/-- The microseconds of the calendar before a local time, with one day of them before the first. -/
def elapsed (t : LocalTime) : Nat := t.date.number * microsPerDay + t.micros

theorem elapsed_lt_iff : t.elapsed < u.elapsed ↔ t.lt u = true := by
  have ht := t.inDay
  have hu := u.inDay
  simp only [lt, Bool.or_eq_true, Bool.and_eq_true, decide_eq_true_eq, ← Date.number_lt_iff, elapsed]
  simp only [microsPerDay, microsPerSecond] at *
  constructor
  · intro h
    rcases Nat.lt_trichotomy t.date.number u.date.number with hlt | heq | hlt
    · exact .inl hlt
    · exact .inr ⟨Date.number_inj heq, by omega⟩
    · omega
  · rintro (h | ⟨h, hlt⟩)
    · omega
    · rw [h]
      omega

theorem elapsed_inj (h : t.elapsed = u.elapsed) : t = u := by
  have ht := t.inDay
  have hu := u.inDay
  obtain ⟨d, m, hm⟩ := t
  obtain ⟨e, n, hn⟩ := u
  simp only [elapsed, microsPerDay, microsPerSecond] at *
  obtain rfl : d = e := Date.number_inj (by omega)
  obtain rfl : m = n := by omega
  rfl

theorem lt_asymm (h : t.lt u = true) : u.lt t = false := by
  rw [← elapsed_lt_iff] at h
  rw [← Bool.not_eq_true, ← elapsed_lt_iff]
  omega

theorem lt_or_eq_or_lt (t u : LocalTime) : t.lt u = true ∨ t = u ∨ u.lt t = true := by
  simp only [← elapsed_lt_iff]
  exact (Nat.lt_trichotomy t.elapsed u.elapsed).imp_right (.imp_left elapsed_inj)

theorem of?_eq_some_iff {date : Date} {micros : Nat} :
    of? date micros = some t ↔ t.date = date ∧ t.micros = micros := by
  obtain ⟨d, m, hm⟩ := t
  unfold of?
  constructor
  · intro h
    split at h
    · cases h
      exact ⟨rfl, rfl⟩
    · cases h
  · rintro ⟨rfl, rfl⟩
    exact dif_pos hm

theorem bind_of?_eq_some_iff {date? : Option Date} {micros : Nat} :
    (date?.bind fun date => of? date micros) = some t ↔ date? = some t.date ∧ t.micros = micros := by
  simp only [Option.bind_eq_some_iff, of?_eq_some_iff]
  constructor
  · rintro ⟨date, hdate, rfl, hmicros⟩
    exact ⟨hdate, hmicros⟩
  · rintro ⟨hdate, hmicros⟩
    exact ⟨_, hdate, rfl, hmicros⟩

/-- Local times are shifted along the instants of the calendar. -/
theorem shift?_eq_some_iff {micros : Int} (h : micros.natAbs < microsPerDay) :
    t.shift? micros = some u ↔ (u.elapsed : Int) = t.elapsed + micros := by
  have ht := t.inDay
  have hu := u.inDay
  simp only [shift?, elapsed, Option.bind_eq_bind]
  split
  · rw [bind_of?_eq_some_iff, Date.prev?_eq_some_iff]
    unfold microsPerDay microsPerSecond at *
    omega
  split
  · rw [bind_of?_eq_some_iff, Date.next?_eq_some_iff]
    unfold microsPerDay microsPerSecond at *
    omega
  · rw [of?_eq_some_iff]
    unfold microsPerDay microsPerSecond at *
    constructor
    · rintro ⟨hdate, hmicros⟩
      rw [hdate]
      omega
    · intro heq
      have hnumber : u.date.number = t.date.number := by omega
      exact ⟨Date.number_inj hnumber, by omega⟩

end LocalTime

namespace Moment

variable {m n : Moment} {t : LocalTime}

/-- The instant of a moment in microseconds; one without an offset is taken for universal time. -/
def instant (m : Moment) : Int := m.clock.elapsed - m.offset.getD 0

/-- The instant is that of a local time. -/
def InCalendar (m : Moment) : Prop := ∃ t : LocalTime, (t.elapsed : Int) = m.instant

/-- Universal time is the local time at the instant of a moment. -/
theorem universal?_eq_some_iff (h : ∀ offset ∈ m.offset, offset.natAbs < microsPerDay) :
    m.universal? = some t ↔ (t.elapsed : Int) = m.instant := by
  obtain ⟨clock, offset⟩ := m
  unfold universal? instant
  cases offset with
  | none =>
      simp only [Option.some.injEq, Option.getD_none, Int.sub_zero, Int.natCast_inj]
      constructor
      · rintro rfl
        rfl
      · exact fun heq => (LocalTime.elapsed_inj heq).symm
  | some offset =>
      have hoffset : offset.natAbs < microsPerDay := h offset rfl
      rw [← Int.natAbs_neg] at hoffset
      simp only [LocalTime.shift?_eq_some_iff hoffset, Option.getD_some, Int.sub_eq_add_neg]

/-! ## Moments that were read -/

theorem natAbs_of_readOffset? {mark : Char} {s : List Char} {offset : Int}
    (h : readOffset? mark s = some offset) : offset.natAbs < microsPerDay := by
  unfold readOffset? at h
  split at h
  · split at h
    · cases h
      decide
    · cases h
  · simp only [Option.bind_eq_bind, Option.bind_eq_some_iff] at h
    obtain ⟨c, -, h⟩ := h
    generalize (if c.seconds = 0 then 0 else c.seconds * microsPerSecond + c.micros) = size at h
    split at h
    · rename_i hsize
      rw [Bool.and_eq_true, decide_eq_true_eq] at hsize
      obtain rfl := Option.some.inj h
      split <;> omega
    · cases h

theorem natAbs_of_readTime? {d : Date} {s : List Char} (h : readTime? d s = some m) :
    ∀ offset ∈ m.offset, offset.natAbs < microsPerDay := by
  obtain ⟨-, -, hnone | ⟨mark, rest, offset, hread, hsome⟩⟩ := exists_of_readTime? h
  · rw [hnone]
    exact fun offset hoffset => by cases hoffset
  · rw [hsome]
    rintro _ ⟨⟩
    exact natAbs_of_readOffset? hread

/-- The offset of a moment that was read is less than a day. -/
theorem natAbs_of_ofText? {s : List Char} (h : ofText? s = some m) :
    ∀ offset ∈ m.offset, offset.natAbs < microsPerDay := by
  simp only [ofText?, Option.bind_eq_bind, Option.bind_eq_some_iff] at h
  obtain ⟨d, -, h⟩ := h
  split at h
  · obtain ⟨clock, -, rfl⟩ := Option.map_eq_some_iff.1 h
    exact fun offset hoffset => by cases hoffset
  · exact natAbs_of_readTime? h

end Moment

end RowFilter.Calendar
