import RowFilter.Operand.Sort
import RowFilter.Proofs.Calendar.Instant
import RowFilter.Proofs.Operand.Order

/-!
# Operands of one kind

The key of an operand is a value of its kind or its text, so the keys of operands of one kind can
always be compared. They are compared by what the operands mean: numbers as numbers, moments by the
instants that they name, and whatever spells nothing by its text, behind all that does.
-/

namespace RowFilter

open RowFilter.Calendar RowFilter.Number

/-! ## Numbers -/

namespace Number.Binary64

theorem ofInt_lt_ofInt (m n : Int) : (ofInt m).lt (ofInt n) = decide (m < n) := by
  have hunits : (0 : Int) < unitsPerOne := by decide +kernel
  simp only [ofInt, lt, signedUnits_ofInt, Int.mul_lt_mul_right hunits]

/-- A number that is one lies on one side of any other. -/
theorem lt_or_lt_of_lt {x y z : Binary64} (h : x.lt z = true) (hy : y ≠ .nan) :
    x.lt y = true ∨ y.lt z = true := by
  cases y with
  | nan => exact absurd rfl hy
  | infinity b =>
      cases x with
      | nan => cases h
      | infinity a => cases z <;> cases a <;> cases b <;> simp_all [lt]
      | finite a m => cases z <;> cases b <;> simp_all [lt]
  | finite b k =>
      cases x with
      | nan => cases h
      | infinity a => cases z <;> cases a <;> simp_all [lt]
      | finite a m =>
          cases z with
          | nan => cases h
          | infinity c => exact .inr h
          | finite c n =>
              simp only [lt, decide_eq_true_eq] at h ⊢
              omega

end Number.Binary64

/-! ## Keys -/

namespace Key

variable {a b c : Key}

def number? : Key → Option Binary64
  | .integer n => some (.ofInt n)
  | .float x => some x
  | _ => none

theorem lt_eq_of_number? {x y : Binary64} (ha : a.number? = some x) (hb : b.number? = some y) :
    a.lt b = x.lt y := by
  cases a with
  | integer m =>
      obtain rfl := Option.some.inj ha
      cases b with
      | integer n =>
          obtain rfl := Option.some.inj hb
          exact (Binary64.ofInt_lt_ofInt m n).symm
      | float x =>
          obtain rfl := Option.some.inj hb
          exact Binary64.intLt_eq m x
      | _ => cases hb
  | float x =>
      obtain rfl := Option.some.inj ha
      cases b with
      | integer n =>
          obtain rfl := Option.some.inj hb
          exact Binary64.ltInt_eq x n
      | float y =>
          obtain rfl := Option.some.inj hb
          rfl
      | _ => cases hb
  | _ => cases ha

theorem exists_number?_of_rank_eq_zero (h : a.rank = 0) : ∃ x, a.number? = some x := by
  cases a with
  | integer n => exact ⟨_, rfl⟩
  | float x => exact ⟨_, rfl⟩
  | _ => cases h

theorem ne_nan_of_number? {x : Binary64} (h : a.number? = some x) (ha : a ≠ .float .nan) :
    x ≠ .nan := by
  rintro rfl
  cases a with
  | float x =>
      obtain rfl := Option.some.inj h
      exact ha rfl
  | _ => cases h

theorem lt_of_rank_lt (h : a.rank < b.rank) : a.lt b = true := by
  cases a <;> cases b <;> simp_all [rank, lt]

theorem rank_le_of_lt (h : a.lt b = true) : a.rank ≤ b.rank := by
  by_contra hlt
  rw [lt_asymm (lt_of_rank_lt (Nat.lt_of_not_le hlt))] at h
  cases h

theorem lt_or_lt_of_rank_eq_zero (h : a.lt c = true) (hb : b ≠ .float .nan) (ha0 : a.rank = 0)
    (hb0 : b.rank = 0) (hc0 : c.rank = 0) : a.lt b = true ∨ b.lt c = true := by
  obtain ⟨x, hx⟩ := exists_number?_of_rank_eq_zero ha0
  obtain ⟨y, hy⟩ := exists_number?_of_rank_eq_zero hb0
  obtain ⟨z, hz⟩ := exists_number?_of_rank_eq_zero hc0
  rw [lt_eq_of_number? hx hz] at h
  rw [lt_eq_of_number? hx hy, lt_eq_of_number? hy hz]
  exact Binary64.lt_or_lt_of_lt h (ne_nan_of_number? hy hb)

theorem lt_or_lt_of_rank_eq (h : a.lt c = true) (hb : b ≠ .float .nan) (hab : a.rank = b.rank)
    (hbc : b.rank = c.rank) : a.lt b = true ∨ b.lt c = true := by
  cases b with
  | integer _ | float _ => exact lt_or_lt_of_rank_eq_zero h hb hab rfl hbc.symm
  | date e =>
      cases a with
      | date d =>
          cases c with
          | date f =>
              simp only [lt, ← Date.number_lt_iff] at h ⊢
              omega
          | _ => cases hbc
      | _ => cases hab
  | time e =>
      cases a with
      | time d =>
          cases c with
          | time f =>
              simp only [lt, ← LocalTime.elapsed_lt_iff] at h ⊢
              omega
          | _ => cases hbc
      | _ => cases hab
  | raw t =>
      cases a with
      | raw s =>
          cases c with
          | raw u =>
              simp only [lt, decide_eq_true_eq] at h ⊢
              by_contra hnot
              rw [not_or, String.not_lt, String.not_lt] at hnot
              exact String.not_lt.2 (String.le_trans hnot.2 hnot.1) h
          | _ => cases hbc
      | _ => cases hab

/-- Of two keys in order any third one follows the first or precedes the second, unless it is no
number. -/
theorem lt_or_lt_of_lt (h : a.lt c = true) (hb : b ≠ .float .nan) :
    a.lt b = true ∨ b.lt c = true := by
  have hle := rank_le_of_lt h
  by_cases hab : a.rank < b.rank
  · exact .inl (lt_of_rank_lt hab)
  by_cases hbc : b.rank < c.rank
  · exact .inr (lt_of_rank_lt hbc)
  · exact lt_or_lt_of_rank_eq h hb (by omega) (by omega)

/-! ## Keys of one kind -/

/-- The kind of the value in a key, if it holds one. -/
def valueKind? : Key → Option OperandKind
  | .integer _ => some .integer
  | .float _ => some .float
  | .date _ => some .date
  | .time _ => some .time
  | .raw _ => none

theorem comparable_of_valueKind? {k : OperandKind} (ha : ∀ l ∈ a.valueKind?, l = k)
    (hb : ∀ l ∈ b.valueKind?, l = k) : a.comparable b = true := by
  have heq : ∀ {l l' : OperandKind}, a.valueKind? = some l → b.valueKind? = some l' → l = l' :=
    fun hl hl' => (ha _ hl).trans (hb _ hl').symm
  cases a with
  | raw s => rfl
  | _ =>
      cases b with
      | raw t => rfl
      | _ =>
          first
          | rfl
          | cases heq rfl rfl

end Key

/-! ## Operands -/

def Value.kind : Value → OperandKind
  | .text _ => .text
  | .integer _ => .integer
  | .float _ => .float
  | .date _ => .date
  | .time _ => .time

namespace Operand

variable {a b c o : Operand}

theorem kind_of_value? {v : Value} (h : o.value? = some v) : v.kind = o.kind := by
  obtain ⟨k, raw⟩ := o
  cases k with
  | text =>
      obtain rfl := Option.some.inj h
      rfl
  | _ =>
      obtain ⟨_, -, rfl⟩ := Option.map_eq_some_iff.1 h
      rfl

/-- A key holds a value of the kind of its operand, unless the operand spells none. -/
theorem valueKind?_key (o : Operand) :
    o.key.valueKind? = if o.spellsValue = true then some o.kind else none := by
  unfold key spellsValue
  cases hvalue : o.value? with
  | none => rfl
  | some v =>
      rw [← kind_of_value? hvalue]
      cases v with
      | time m => cases huniversal : m.universal? <;> simp only [huniversal] <;> rfl
      | _ => rfl

theorem key_before_of_kind_eq (h : a.kind = b.kind) :
    a.key.before b.key = .ok (a.key.lt b.key) := by
  have hkind : ∀ o : Operand, o.kind = b.kind → ∀ l ∈ o.key.valueKind?, l = b.kind := by
    intro o ho l hl
    rw [valueKind?_key] at hl
    split at hl
    · exact (Option.some.inj hl).symm.trans ho
    · cases hl
  rw [Key.before, if_pos (Key.comparable_of_valueKind? (hkind a h) (hkind b rfl))]

/-! ## Values -/

theorem key_of_integer {n : Int} (h : o.value? = some (.integer n)) : o.key = .integer n := by
  simp only [key, h]

theorem ofText?_of_value? {m : Moment} (h : o.value? = some (.time m)) :
    Moment.ofText? (Text.trim o.raw.toList) = some m := by
  obtain ⟨kind, raw⟩ := o
  cases kind with
  | time =>
      obtain ⟨m', hm, hvalue⟩ := Option.map_eq_some_iff.1 h
      exact Value.time.inj hvalue ▸ hm
  | text => cases h
  | integer | float | date =>
      obtain ⟨v, -, hvalue⟩ := Option.map_eq_some_iff.1 h
      cases hvalue

theorem universal?_of_value? {m : Moment} {t : LocalTime} (h : o.value? = some (.time m)) :
    m.universal? = some t ↔ (t.elapsed : Int) = m.instant :=
  Moment.universal?_eq_some_iff (Moment.natAbs_of_ofText? (ofText?_of_value? h))

theorem key_of_inCalendar {m : Moment} (h : o.value? = some (.time m)) (hm : m.InCalendar) :
    ∃ t : LocalTime, o.key = .time t ∧ (t.elapsed : Int) = m.instant := by
  obtain ⟨t, ht⟩ := hm
  have huniversal := (universal?_of_value? h).2 ht
  exact ⟨t, by simp only [key, h, huniversal], ht⟩

theorem spellsValue_iff_inCalendar {m : Moment} (h : o.value? = some (.time m)) :
    o.spellsValue = true ↔ m.InCalendar := by
  simp only [spellsValue, h, Option.isSome_iff_exists, universal?_of_value? h, Moment.InCalendar]

/-! ## The order of one kind -/

/-- The key is a float that is no number. -/
def IsNan (o : Operand) : Prop := o.key = .float .nan

/-- The operand does not come after the other one. -/
def AtMost (a b : Operand) : Prop := b.key.lt a.key = false

theorem atMost_refl (a : Operand) : a.AtMost a := a.key.lt_irrefl

theorem atMost_total (a b : Operand) : a.AtMost b ∨ b.AtMost a := by
  unfold AtMost
  cases h : b.key.lt a.key with
  | false => exact .inl rfl
  | true => exact .inr (Key.lt_asymm h)

theorem AtMost.trans (hab : a.AtMost b) (hbc : b.AtMost c) (hb : ¬b.IsNan) : a.AtMost c := by
  unfold AtMost at *
  by_contra hac
  rw [Bool.not_eq_false] at hac
  rcases Key.lt_or_lt_of_lt hac hb with h | h
  · rw [h] at hbc
    cases hbc
  · rw [h] at hab
    cases hab

/-- What the keys of two operands of one kind tell about them. -/
structure ComparesByMeaning (a b : Operand) : Prop where
  /-- Values in keys are of the one kind, moments without an offset, so comparing never fails. -/
  value_kind : ∀ o ∈ [a, b], o.key.valueKind? = if o.spellsValue = true then some a.kind else none
  before_eq : a.key.before b.key = .ok (a.key.lt b.key)
  /-- Values come before texts, and texts in their own order. -/
  value_first : a.spellsValue = true → b.spellsValue = false → a.key.lt b.key = true
  by_text : a.spellsValue = false → b.spellsValue = false → a.key.lt b.key = decide (a.raw < b.raw)
  by_integer : ∀ m n, a.value? = some (.integer m) → b.value? = some (.integer n) →
    a.key.lt b.key = decide (m < n)
  /-- Moments are compared by their instants, whatever their offsets are. -/
  by_instant : ∀ m n, a.value? = some (.time m) → b.value? = some (.time n) → m.InCalendar →
    n.InCalendar → a.key.lt b.key = decide (m.instant < n.instant)
  /-- A moment whose instant is out of the calendar is compared by its text. -/
  out_of_calendar : ∀ m, a.value? = some (.time m) →
    (a.spellsValue = true ↔ m.InCalendar) ∧ (¬m.InCalendar → a.key = .raw a.raw)

theorem comparesByMeaning_of_kind_eq (h : a.kind = b.kind) : ComparesByMeaning a b where
  value_kind o ho := by
    have hkind : o.kind = a.kind := by
      rw [List.mem_cons, List.mem_singleton] at ho
      rcases ho with rfl | rfl
      · rfl
      · exact h.symm
    rw [valueKind?_key, hkind]
  before_eq := key_before_of_kind_eq h
  value_first ha hb := by
    rw [key_eq_raw hb]
    exact Key.lt_raw_of_rank_lt (rank_key_lt ha) b.raw
  by_text ha hb := by
    rw [key_eq_raw ha, key_eq_raw hb, Key.lt]
  by_integer m n hm hn := by
    rw [key_of_integer hm, key_of_integer hn, Key.lt]
  by_instant m n hm hn hmc hnc := by
    obtain ⟨t, hat, ht⟩ := key_of_inCalendar hm hmc
    obtain ⟨u, hbu, hu⟩ := key_of_inCalendar hn hnc
    rw [hat, hbu, Key.lt, Bool.eq_iff_iff, decide_eq_true_iff, ← LocalTime.elapsed_lt_iff]
    omega
  out_of_calendar m hm := by
    have hspells := spellsValue_iff_inCalendar hm
    refine ⟨hspells, fun hout => key_eq_raw ?_⟩
    rwa [← hspells, Bool.not_eq_true] at hout

/-- The keys of operands of one kind are compared by what the operands mean. Not coming after each
other is a total preorder, apart from floats that are no numbers. -/
theorem compares_of_kind_eq (h : a.kind = b.kind) :
    ComparesByMeaning a b ∧ a.AtMost a ∧ (a.AtMost b ∨ b.AtMost a) ∧
      ∀ c, ¬b.IsNan → a.AtMost b → b.AtMost c → a.AtMost c :=
  ⟨comparesByMeaning_of_kind_eq h, atMost_refl a, atMost_total a b,
    fun _ hb hab hbc => hab.trans hbc hb⟩

/-- Ten o'clock two hours east is before half past nine in universal time. The first half hour of the
calendar one hour east lies before the calendar and comes last, with its text. -/
theorem compares_of_kind_eq_offsets :
    let early : Operand := ⟨.time, "2021-01-02T10:00+02:00"⟩
    let late : Operand := ⟨.time, "2021-01-02T09:30Z"⟩
    let before : Operand := ⟨.time, "0001-01-01T00:30+01:00"⟩
    early.kind = late.kind ∧ late.kind = before.kind ∧ ¬late.IsNan ∧
      early.key.lt late.key = true ∧ before.spellsValue = false ∧
        early.AtMost before ∧ before.key = .raw before.raw := by
  intro early late before
  let date : Date := ⟨2021, 1, 2, by decide⟩
  let m : Moment := ⟨⟨date, 36000000000, by decide⟩, some 7200000000⟩
  let n : Moment := ⟨⟨date, 34200000000, by decide⟩, some 0⟩
  let first : Moment := ⟨⟨⟨1, 1, 1, by decide⟩, 1800000000, by decide⟩, some 3600000000⟩
  have hm : early.value? = some (.time m) := by decide +kernel
  have hn : late.value? = some (.time n) := by decide +kernel
  have hfirst : before.value? = some (.time first) := by decide +kernel
  have hmc : m.InCalendar := ⟨⟨date, 28800000000, by decide⟩, by decide +kernel⟩
  have hnc : n.InCalendar := ⟨⟨date, 34200000000, by decide⟩, by decide +kernel⟩
  have hnan : ¬late.IsNan := by
    unfold IsNan
    decide +kernel
  have hout : before.spellsValue = false := by decide +kernel
  have hkind : early.kind = late.kind := rfl
  have hkind' : before.kind = late.kind := rfl
  have hlt : early.key.lt late.key = true := by
    rw [(compares_of_kind_eq hkind).1.by_instant m n hm hn hmc hnc]
    decide +kernel
  have hlate : late.AtMost before := by
    unfold AtMost
    decide +kernel
  have hkey : before.key = .raw before.raw := by
    obtain ⟨hspells, hraw⟩ := (compares_of_kind_eq hkind').1.out_of_calendar first hfirst
    refine hraw fun hin => ?_
    rw [hspells.2 hin] at hout
    cases hout
  have hle : early.AtMost before :=
    (compares_of_kind_eq hkind).2.2.2 before hnan (Key.lt_asymm hlt) hlate
  exact ⟨hkind, hkind'.symm, hnan, hlt, hout, hle, hkey⟩

end Operand

end RowFilter
