import RowFilter.Proofs.Wire.RoundTrip

/-!
# Whole days on the wire

A pair of bounds is read as a whole day exactly if it begins with the first moment of the day and ends
before that of the following day. A first moment is midnight with minutes, with seconds or with a
fraction of zero; a line feed after it is passed over.
-/

namespace RowFilter

open RowFilter.Calendar RowFilter.Wire

namespace Wire

/-! ## First moments -/

/-- The spellings of the first moment of a day. -/
inductive Midnight (d : Date) : List Char → Prop
  | minutes : Midnight d (d.text ++ "T00:00".toList)
  | seconds : Midnight d (d.text ++ "T00:00:00".toList)
  | fraction (n : Nat) : Midnight d (d.text ++ ("T00:00:00.".toList ++ List.replicate (n + 1) '0'))

/-- The text is the first moment of a day, and one line feed may follow. -/
def Opens (d : Date) (s : List Char) : Prop :=
  Midnight d s ∨ ∃ t, s = t ++ ['\n'] ∧ Midnight d t

theorem isMidnight_iff {s : List Char} :
    isMidnight s = true ↔ s = "T00:00".toList ∨ s = "T00:00:00".toList ∨
      ∃ n, s = "T00:00:00.".toList ++ List.replicate (n + 1) '0' := by
  constructor
  · intro h
    unfold isMidnight at h
    split at h
    · cases h
    · rename_i hs
      exact .inl (after?_eq_some_iff.1 hs)
    · rename_i rest _ hs
      obtain rfl := after?_eq_some_iff.1 hs
      split at h
      · rename_i hrest
        obtain rfl := after?_eq_some_iff.1 hrest
        exact .inr (.inl rfl)
      · rename_i zeros hrest
        obtain rfl := after?_eq_some_iff.1 hrest
        obtain ⟨hne, hall⟩ := Bool.and_eq_true_iff.1 h
        have hzeros : zeros = List.replicate zeros.length '0' :=
          List.eq_replicate_of_mem fun c hc => of_decide_eq_true (List.all_eq_true.1 hall c hc)
        cases zeros with
        | nil => exact absurd rfl (of_decide_eq_true hne)
        | cons c zeros =>
            refine .inr (.inr ⟨zeros.length, ?_⟩)
            rw [hzeros]
            rfl
      · cases h
  · rintro (rfl | rfl | ⟨n, rfl⟩)
    · rfl
    · rfl
    · have hall : (List.replicate (n + 1) '0').all (· = '0') = true :=
        List.all_eq_true.2 fun c hc => decide_eq_true (List.eq_of_mem_replicate hc)
      simp [isMidnight, after?, hall]

theorem midnight_iff {d : Date} {s : List Char} :
    Midnight d s ↔ s.take 10 = d.text ∧ isMidnight (s.drop 10) = true := by
  have hlength := d.length_text
  have happend : ∀ time : List Char, isMidnight time = true →
      (d.text ++ time).take 10 = d.text ∧ isMidnight ((d.text ++ time).drop 10) = true := by
    intro time htime
    rw [← hlength, List.take_left, List.drop_left]
    exact ⟨rfl, htime⟩
  constructor
  · intro h
    cases h with
    | minutes => exact happend _ rfl
    | seconds => exact happend _ rfl
    | fraction n => exact happend _ (isMidnight_iff.2 (.inr (.inr ⟨n, rfl⟩)))
  · rintro ⟨hday, htime⟩
    rw [← List.take_append_drop 10 s, hday]
    rcases isMidnight_iff.1 htime with h | h | ⟨n, h⟩
    · rw [h]
      exact .minutes
    · rw [h]
      exact .seconds
    · rw [h]
      exact .fraction n

theorem Midnight.getLast? {d : Date} {s : List Char} (h : Midnight d s) : s.getLast? = some '0' := by
  cases h with
  | minutes | seconds => simp
  | fraction n =>
      rw [List.replicate_succ', ← List.append_assoc, ← List.append_assoc, List.getLast?_concat]

theorem midnight_dropLineEnd_iff {d : Date} {s : List Char} :
    Midnight d (dropLineEnd s) ↔ Opens d s := by
  constructor
  · intro h
    unfold dropLineEnd at h
    split at h
    · rename_i hlast
      obtain ⟨t, rfl⟩ := List.getLast?_eq_some_iff.1 hlast
      rw [List.dropLast_concat] at h
      exact .inr ⟨t, rfl, h⟩
    · exact .inl h
  · rintro (h | ⟨t, rfl, h⟩)
    · rw [dropLineEnd, h.getLast?, if_neg (by decide)]
      exact h
    · rw [dropLineEnd, List.getLast?_concat, if_pos rfl, List.dropLast_concat]
      exact h

/-- The reader of first moments accepts exactly their spellings. -/
theorem dayStart?_eq_some_iff {s : List Char} {d : Date} : dayStart? s = some d ↔ Opens d s := by
  rw [← midnight_dropLineEnd_iff, midnight_iff, dayStart?]
  split
  · rename_i htime
    rw [Date.ofDashed?_eq_some_iff, htime, and_iff_left rfl]
  · rename_i htime
    exact iff_of_false (fun h => by cases h) (fun h => htime h.2)

theorem wholeDay?_eq_some_iff {start finish : List Char} {op : Operation} :
    wholeDay? start finish = some op ↔ ∃ day next : Date, day.next? = some next ∧
      Opens day start ∧ Opens next finish ∧ op = .inDate ⟨.date, String.ofList day.text⟩ := by
  simp only [wholeDay?, Option.bind_eq_bind, Option.bind_eq_some_iff, dayStart?_eq_some_iff]
  constructor
  · rintro ⟨day, hstart, next, hfinish, h⟩
    split at h
    · rename_i hnext
      exact ⟨day, next, hnext, hstart, hfinish, (Option.some.inj h).symm⟩
    · cases h
  · rintro ⟨day, next, hnext, hstart, hfinish, rfl⟩
    exact ⟨day, hstart, next, hfinish, if_pos hnext⟩

end Wire

/-! ## Pairs of bounds -/

namespace Filter

variable {column : Column}

theorem parse_group_bounds_eq_some_iff (htime : column.kind = .time)
    (hname : IsLegName column.name.toList) {start finish : String} {f : Filter} :
    parse column
        (group (leg column.name .greaterOrEqual start) (leg column.name .lesserThan finish)) =
      some f ↔ ∃ day next : Date, day.next? = some next ∧ Opens day start.toList ∧
        Opens next finish.toList ∧
          f = ⟨column.name, .inDate ⟨.date, String.ofList day.text⟩⟩ := by
  rw [parse_group hname, readGroup?_day htime, Option.bind_eq_some_iff]
  constructor
  · rintro ⟨op, hop, hf⟩
    obtain ⟨day, next, hnext, hstart, hfinish, rfl⟩ := wholeDay?_eq_some_iff.1 hop
    rw [if_pos (Column.accepts_inDate htime _)] at hf
    exact ⟨day, next, hnext, hstart, hfinish, (Option.some.inj hf).symm⟩
  · rintro ⟨day, next, hnext, hstart, hfinish, rfl⟩
    refine ⟨_, wholeDay?_eq_some_iff.2 ⟨day, next, hnext, hstart, hfinish, rfl⟩, ?_⟩
    rw [if_pos (Column.accepts_inDate htime _)]

/-- On a column of moments a lower bound and a bound below which, in either order, are read as a whole
day exactly if they open this day and the following one, and as nothing otherwise. -/
theorem parse_group_day_iff (htime : column.kind = .time)
    (hname : ∀ c ∈ column.name.toList, c ≠ '.' ∧ c ≠ ',' ∧ c ≠ '(' ∧ c ≠ '"')
    {start finish fragment : String}
    (hfragment : fragment =
        group (leg column.name .greaterOrEqual start) (leg column.name .lesserThan finish) ∨
      fragment =
        group (leg column.name .lesserThan finish) (leg column.name .greaterOrEqual start)) :
    (∀ raw, parse column fragment = some ⟨column.name, .inDate ⟨.date, raw⟩⟩ ↔
        ∃ day next : Date, raw = String.ofList day.text ∧ day.next? = some next ∧
          Opens day start.toList ∧ Opens next finish.toList) ∧
      (parse column fragment = none ↔ ¬∃ day next : Date, day.next? = some next ∧
        Opens day start.toList ∧ Opens next finish.toList) := by
  have hleg := isLegName_of_plain hname
  have hword : Comparison.greaterOrEqual.word ≠ Comparison.lesserThan.word := by decide
  have hread : ∀ f, parse column fragment = some f ↔ ∃ day next : Date, day.next? = some next ∧
      Opens day start.toList ∧ Opens next finish.toList ∧
        f = ⟨column.name, .inDate ⟨.date, String.ofList day.text⟩⟩ := by
    intro f
    rcases hfragment with rfl | rfl
    · exact parse_group_bounds_eq_some_iff htime hleg
    · rw [parse_group_swap hleg hword]
      exact parse_group_bounds_eq_some_iff htime hleg
  refine ⟨fun raw => ?_, ?_⟩
  · rw [hread]
    constructor
    · rintro ⟨day, next, hnext, hstart, hfinish, hf⟩
      simp only [mk.injEq, Operation.inDate.injEq, Operand.mk.injEq, true_and] at hf
      exact ⟨day, next, hf, hnext, hstart, hfinish⟩
    · rintro ⟨day, next, rfl, hnext, hstart, hfinish⟩
      exact ⟨day, next, hnext, hstart, hfinish, rfl⟩
  · rw [Option.eq_none_iff_forall_ne_some]
    constructor
    · rintro hnone ⟨day, next, hnext, hstart, hfinish⟩
      exact hnone _ ((hread _).2 ⟨day, next, hnext, hstart, hfinish, rfl⟩)
    · intro hday f hf
      obtain ⟨day, next, hnext, hstart, hfinish, -⟩ := (hread f).1 hf
      exact hday ⟨day, next, hnext, hstart, hfinish⟩

theorem parse_group_day_leap :
    let column : Column := ⟨"created", .time, [], by decide, by decide⟩
    let fragment : String := group (leg column.name .lesserThan "2024-03-01T00:00:00")
      (leg column.name .greaterOrEqual "2024-02-29T00:00:00.000")
    column.kind = .time ∧ (∀ c ∈ column.name.toList, c ≠ '.' ∧ c ≠ ',' ∧ c ≠ '(' ∧ c ≠ '"') ∧
      fragment = "and=(created.lt.2024-03-01T00%3A00%3A00,created.gte.2024-02-29T00%3A00%3A00.000)" ∧
      parse column fragment = some ⟨column.name, .inDate ⟨.date, "2024-02-29"⟩⟩ := by
  intro column fragment
  have hname : ∀ c ∈ column.name.toList, c ≠ '.' ∧ c ≠ ',' ∧ c ≠ '(' ∧ c ≠ '"' := by simp [column]
  obtain ⟨hday, -⟩ := @parse_group_day_iff column rfl hname _ _ fragment (.inr rfl)
  let day : Date := ⟨2024, 2, 29, by decide⟩
  let next : Date := ⟨2024, 3, 1, by decide⟩
  have hstart : Opens day "2024-02-29T00:00:00.000".toList :=
    .inl (midnight_iff.2 ⟨by decide, by decide⟩)
  have hfinish : Opens next "2024-03-01T00:00:00".toList :=
    .inl (midnight_iff.2 ⟨by decide, by decide⟩)
  exact ⟨rfl, hname, by decide +kernel,
    (hday _).2 ⟨day, next, by decide +kernel, by decide, hstart, hfinish⟩⟩

/-- A line feed after the first moment belongs to none of its spellings, and yet a whole day is read. -/
theorem parse_day_line_feed :
    let column : Column := ⟨"created", .time, [], by decide, by decide⟩
    let start : String := "2021-01-01T00:00\n"
    let fragment : String := group (leg column.name .greaterOrEqual start)
      (leg column.name .lesserThan "2021-01-02T00:00")
    (∀ day, ¬Midnight day start.toList) ∧
      fragment = "and=(created.gte.%222021-01-01T00%3A00%0A%22,created.lt.2021-01-02T00%3A00)" ∧
      parse column fragment = some ⟨column.name, .inDate ⟨.date, "2021-01-01"⟩⟩ := by
  intro column start fragment
  have hlast : start.toList.getLast? = some '\n' := by decide
  refine ⟨fun day h => ?_, by decide +kernel, by decide +kernel⟩
  rw [h.getLast?] at hlast
  exact absurd hlast (by decide)

end Filter

end RowFilter
