import RowFilter.Proofs.Wire.RoundTrip

/-!
# Ranges on the wire

A range is read with its bounds in the order of what they mean. A range with a blank bound has nothing
to compare, so the order of its texts may put the other bound in the blank one's place.
-/

namespace RowFilter

open RowFilter.Wire

namespace Filter

variable {column : Column} {l u : Operand}

/-! ## Bounds in any order -/

theorem parse_group_range {k : OperandKind} (hname : IsLegName column.name.toList)
    (hallows : column.allows .between = true) (hk : column.kind.operandKind? = some k)
    (a b : String) :
    parse column (group (leg column.name .greaterOrEqual a) (leg column.name .lesserOrEqual b)) =
      some ⟨column.name, .between ((Operand.mk k a).inOrder ⟨k, b⟩).1
        ((Operand.mk k a).inOrder ⟨k, b⟩).2⟩ := by
  have hacc : ∀ l u : String, column.accepts (.between ⟨k, l⟩ ⟨k, u⟩) = true :=
    fun _ _ => Column.accepts_between_iff.2 ⟨hallows, hk, hk⟩
  rw [parse_group hname, readGroup?_range, range?_eq hk, String.ofList_toList,
    String.ofList_toList, Operand.inOrder]
  split <;> simp only [Option.bind_some, hacc, if_true]

/-- A group of a lower and an upper bound is read as the range of the two in order, whichever leg
stands first. The bounds may even be taken for each other, unless their keys are equal in value or one
is no number. -/
theorem exists_parse_range (hkind : column.kind ∈ [ColumnKind.integer, .float, .date, .time])
    (hname : ∀ c ∈ column.name.toList, c ≠ '.' ∧ c ≠ ',' ∧ c ≠ '(' ∧ c ≠ '"') (a b : String) :
    ∃ k lo hi, column.kind.operandKind? = some k ∧
      (lo = ⟨k, a⟩ ∧ hi = ⟨k, b⟩ ∨ lo = ⟨k, b⟩ ∧ hi = ⟨k, a⟩) ∧ hi.key.lt lo.key = false ∧
      parse column (group (leg column.name .greaterOrEqual a) (leg column.name .lesserOrEqual b)) =
        some ⟨column.name, .between lo hi⟩ ∧
      parse column (group (leg column.name .lesserOrEqual b) (leg column.name .greaterOrEqual a)) =
        some ⟨column.name, .between lo hi⟩ ∧
      ((Operand.mk k a).key.same (Operand.mk k b).key = false →
        (Operand.mk k a).key ≠ .float .nan → (Operand.mk k b).key ≠ .float .nan →
        parse column (group (leg column.name .greaterOrEqual b) (leg column.name .lesserOrEqual a)) =
            some ⟨column.name, .between lo hi⟩ ∧
          parse column (group (leg column.name .lesserOrEqual a) (leg column.name .greaterOrEqual b)) =
            some ⟨column.name, .between lo hi⟩) := by
  have hleg := isLegName_of_plain hname
  have hword : Comparison.greaterOrEqual.word ≠ Comparison.lesserOrEqual.word := by decide
  have hallows : column.allows .between = true := Column.allows_between hkind
  obtain ⟨k, hk⟩ := Option.isSome_iff_exists.1 (Column.hasOperand_eq hallows rfl).symm
  refine ⟨k, _, _, hk, ?_, Operand.lt_inOrder_eq_false ⟨k, a⟩ ⟨k, b⟩,
    parse_group_range hleg hallows hk a b, ?_, fun hsame ha hb => ⟨?_, ?_⟩⟩
  · exact (Operand.inOrder_cases ⟨k, a⟩ ⟨k, b⟩).imp Prod.mk.inj Prod.mk.inj
  · rw [parse_group_swap hleg hword, parse_group_range hleg hallows hk]
  · rw [Operand.inOrder_comm hsame ha hb, parse_group_range hleg hallows hk]
  · rw [Operand.inOrder_comm hsame ha hb, parse_group_swap hleg hword,
      parse_group_range hleg hallows hk]

/-- Ten o'clock two hours east of universal time is before half past nine. -/
theorem exists_parse_range_offset :
    let column : Column := ⟨"created", .time, [], by decide, by decide⟩
    let early : Operand := ⟨.time, "2021-01-02T10:00+02:00"⟩
    let late : Operand := ⟨.time, "2021-01-02T09:30"⟩
    let range (low high : Operand) : String :=
      group (leg column.name .greaterOrEqual low.raw) (leg column.name .lesserOrEqual high.raw)
    column.kind ∈ [ColumnKind.integer, .float, .date, .time] ∧
      (∀ c ∈ column.name.toList, c ≠ '.' ∧ c ≠ ',' ∧ c ≠ '(' ∧ c ≠ '"') ∧
      early.key.same late.key = false ∧ early.key ≠ .float .nan ∧ late.key ≠ .float .nan ∧
      parse column (range late early) = some ⟨column.name, .between early late⟩ ∧
      parse column (range early late) = some ⟨column.name, .between early late⟩ := by
  intro column early late range
  have hkind : column.kind ∈ [ColumnKind.integer, .float, .date, .time] := by decide
  have hname : ∀ c ∈ column.name.toList, c ≠ '.' ∧ c ≠ ',' ∧ c ≠ '(' ∧ c ≠ '"' := by simp [column]
  have hsame : late.key.same early.key = false := by decide +kernel
  have hearly : early.key ≠ .float .nan := by decide +kernel
  have hlate : late.key ≠ .float .nan := by decide +kernel
  obtain ⟨k, lo, hi, hk, hcases, hlt, hread, -, hexchange⟩ :=
    exists_parse_range hkind hname late.raw early.raw
  obtain rfl : OperandKind.time = k := Option.some.inj hk
  obtain ⟨rfl, rfl⟩ : lo = early ∧ hi = late := by
    rcases hcases with ⟨rfl, rfl⟩ | h
    · exact absurd hlt (by decide +kernel)
    · exact h
  exact ⟨hkind, hname, by decide +kernel, hearly, hlate, hread, (hexchange hsame hlate hearly).1⟩

/-! ## Blank bounds -/

/-- Reading exchanges the bounds: a blank lower one goes behind an upper one that spells a value, a
blank upper one before a lower one that spells none. -/
def Displaced (l u : Operand) : Prop :=
  l.raw = "" ∧ u.spellsValue = true ∨ u.raw = "" ∧ l.raw ≠ "" ∧ l.spellsValue = false

instance : Decidable (Displaced l u) := inferInstanceAs (Decidable (_ ∨ _))

theorem key_lt_iff_displaced (hblank : l.raw = "" ∨ u.raw = "") :
    u.key.lt l.key = true ↔ Displaced l u := by
  unfold Displaced
  by_cases hl : l.raw = ""
  · rw [Operand.lt_key_iff_of_raw_eq_empty hl]
    constructor
    · exact fun hu => .inl ⟨hl, hu⟩
    · rintro (⟨-, hu⟩ | ⟨-, hne, -⟩)
      · exact hu
      · exact absurd hl hne
  · have hu := hblank.resolve_left hl
    rw [Operand.key_lt_iff_of_raw_eq_empty hu]
    constructor
    · exact fun h => .inr ⟨hu, h⟩
    · rintro (⟨hl', -⟩ | ⟨-, h⟩)
      · exact absurd hl' hl
      · exact h

/-- A range with a blank bound is written as one fragment. It is read as the same filter unless its
bounds are displaced, and then with the two exchanged. -/
theorem exists_fragment_parse_blank
    (hname : ∀ c ∈ column.name.toList, c ≠ '.' ∧ c ≠ ',' ∧ c ≠ '(' ∧ c ≠ '"')
    (hacc : column.accepts (.between l u) = true) (hblank : l.raw = "" ∨ u.raw = "") :
    ∃ w, fragments ⟨column.name, .between l u⟩ = [w] ∧
      parse column w =
        some ⟨column.name, if Displaced l u then .between u l else .between l u⟩ := by
  obtain ⟨w, hw, hparse⟩ := exists_fragment_parse_between (isLegName_of_plain hname) hacc
  refine ⟨w, hw, ?_⟩
  rw [hparse]
  simp only [key_lt_iff_displaced hblank]

theorem exists_fragment_parse_blank_upper :
    let column : Column := ⟨"created", .time, [], by decide, by decide⟩
    let lower : Operand := ⟨.time, "2021-01-02T10:00"⟩
    let upper : Operand := ⟨.time, ""⟩
    (∀ c ∈ column.name.toList, c ≠ '.' ∧ c ≠ ',' ∧ c ≠ '(' ∧ c ≠ '"') ∧
      column.accepts (.between lower upper) = true ∧ upper.raw = "" ∧ ¬Displaced lower upper ∧
      ∃ w, fragments ⟨column.name, .between lower upper⟩ = [w] ∧
        parse column w = some ⟨column.name, .between lower upper⟩ := by
  intro column lower upper
  have hname : ∀ c ∈ column.name.toList, c ≠ '.' ∧ c ≠ ',' ∧ c ≠ '(' ∧ c ≠ '"' := by simp [column]
  have hkept : ¬Displaced lower upper := by decide +kernel
  have h := exists_fragment_parse_blank hname (l := lower) (u := upper) rfl (.inr rfl)
  rw [if_neg hkept] at h
  exact ⟨hname, rfl, rfl, hkept, h⟩

/-- Half-typed ranges that come back as other ranges: the upper bound of one has become the lower one,
the lower bound of the other the upper one. -/
theorem parse_written_blank_bound :
    let column : Column := ⟨"age", .integer, [], by decide, by decide⟩
    let blank : Operand := ⟨.integer, ""⟩
    let five : Operand := ⟨.integer, "5"⟩
    let point : Operand := ⟨.integer, "12."⟩
    (column.accepts (.between blank five) = true ∧
      fragments ⟨"age", .between blank five⟩ = ["and=(age.gte.%22%22,age.lte.5)"] ∧
      parse column "and=(age.gte.%22%22,age.lte.5)" = some ⟨"age", .between five blank⟩ ∧
      five ≠ blank) ∧
    column.accepts (.between point blank) = true ∧
      fragments ⟨"age", .between point blank⟩ = ["and=(age.gte.12.,age.lte.%22%22)"] ∧
      parse column "and=(age.gte.12.,age.lte.%22%22)" = some ⟨"age", .between blank point⟩ ∧
      blank ≠ point := by
  intro column blank five point
  exact ⟨⟨rfl, by decide +kernel, by decide +kernel, by decide⟩, rfl, by decide +kernel,
    by decide +kernel, by decide⟩

end Filter

end RowFilter
