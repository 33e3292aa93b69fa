import RowFilter.Operand.Key
import RowFilter.Proofs.Calendar.Instant

/-!
# The order of keys

Two keys are never before each other, numbers that are no numbers included; with these aside, one of two
keys comes first unless they are equal in value. Operands that spell a value come before all that are
compared as they are written, among which the blank one is the first.
-/

namespace RowFilter

open RowFilter.Calendar RowFilter.Number

namespace Number.Binary64

theorem lt_asymm {x y : Binary64} (h : x.lt y = true) : y.lt x = false := by
  cases x with
  | nan => cases h
  | infinity a =>
      cases y with
      | nan => rfl
      | infinity b => cases a <;> cases b <;> simp_all [lt]
      | finite b n => simp_all [lt]
  | finite a m =>
      cases y with
      | nan => rfl
      | infinity b => simp_all [lt]
      | finite b n =>
          simp only [lt, decide_eq_true_eq] at h
          simp only [lt, decide_eq_false_iff_not]
          omega

/-- An integer as a number of units, however large. -/
def ofInt (n : Int) : Binary64 := .finite (decide (n < 0)) (n.natAbs * unitsPerOne)

theorem signedUnits_ofInt (n : Int) :
    signedUnits (decide (n < 0)) (n.natAbs * unitsPerOne) = n * unitsPerOne := by
  rw [signedUnits]
  split
  · rename_i h
    have hneg : (n.natAbs : Int) = -n := by
      rw [decide_eq_true_eq] at h
      omega
    rw [Int.natCast_mul, hneg, Int.neg_mul, Int.neg_neg]
  · rename_i h
    have hpos : (n.natAbs : Int) = n := by
      rw [decide_eq_true_eq] at h
      omega
    rw [Int.natCast_mul, hpos]

theorem intLt_eq (n : Int) (x : Binary64) : intLt n x = (ofInt n).lt x := by
  cases x with
  | nan | infinity b => rfl
  | finite b units => simp only [intLt, ofInt, lt, signedUnits_ofInt]

theorem ltInt_eq (x : Binary64) (n : Int) : x.ltInt n = x.lt (ofInt n) := by
  cases x with
  | nan | infinity b => rfl
  | finite b units => simp only [ltInt, ofInt, lt, signedUnits_ofInt]

theorem ltInt_of_intLt {x : Binary64} {n : Int} (h : intLt n x = true) : x.ltInt n = false := by
  rw [intLt_eq] at h
  rw [ltInt_eq]
  exact lt_asymm h

theorem intLt_of_ltInt {x : Binary64} {n : Int} (h : x.ltInt n = true) : intLt n x = false := by
  rw [ltInt_eq] at h
  rw [intLt_eq]
  exact lt_asymm h

end Number.Binary64

namespace Key

theorem lt_asymm {a b : Key} (h : a.lt b = true) : b.lt a = false := by
  cases a with
  | integer m =>
      cases b with
      | integer n =>
          simp only [lt, decide_eq_true_eq] at h
          simp only [lt, decide_eq_false_iff_not]
          omega
      | float x => exact Binary64.ltInt_of_intLt h
      | _ => rfl
  | float x =>
      cases b with
      | integer n => exact Binary64.intLt_of_ltInt h
      | float y => exact Binary64.lt_asymm h
      | _ => rfl
  | date d =>
      cases b with
      | date e => exact Date.lt_asymm h
      | time _ | raw _ => rfl
      | integer _ | float _ => cases h
  | time t =>
      cases b with
      | time u => exact LocalTime.lt_asymm h
      | raw _ => rfl
      | integer _ | float _ | date _ => cases h
  | raw s =>
      cases b with
      | raw t =>
          simp only [lt, decide_eq_true_eq] at h
          simp only [lt, decide_eq_false_iff_not]
          exact String.lt_asymm h
      | _ => cases h

theorem lt_irrefl (a : Key) : a.lt a = false := by
  cases h : a.lt a with
  | false => rfl
  | true => rw [lt_asymm h] at h; cases h

theorem lt_raw_of_rank_lt {a : Key} (h : a.rank < 3) (s : String) : a.lt (.raw s) = true := by
  cases a with
  | raw t => exact absurd h (Nat.lt_irrefl 3)
  | _ => rfl

theorem raw_lt_raw_empty (s : String) : (raw s).lt (raw "") = false :=
  decide_eq_false (List.not_lt_nil _)

theorem raw_empty_lt_raw_iff {s : String} : (raw "").lt (raw s) = true ↔ s ≠ "" := by
  rw [lt, decide_eq_true_iff, String.lt_iff, ne_eq, ← String.toList_eq_nil_iff]
  cases s.toList with
  | nil => exact iff_of_false (List.not_lt_nil _) (not_not_intro rfl)
  | cons c cs => exact iff_of_true (List.nil_lt_cons c cs) (List.cons_ne_nil c cs)

end Key

/-! ## Keys of equal value -/

namespace Number.Binary64

/-- The same number: the two zeros are one, and what is no number is not even the same as itself. -/
def same : Binary64 → Binary64 → Bool
  | .infinity a, .infinity b => a = b
  | .finite a m, .finite b n => signedUnits a m = signedUnits b n
  | _, _ => false

/-- The same number as an integer, which is not rounded. -/
def sameInt (x : Binary64) (n : Int) : Bool :=
  match x with
  | .finite negative units => signedUnits negative units = n * unitsPerOne
  | _ => false

theorem lt_or_same_or_lt {x y : Binary64} (hx : x ≠ .nan) (hy : y ≠ .nan) :
    x.lt y = true ∨ x.same y = true ∨ y.lt x = true := by
  cases x with
  | nan => exact absurd rfl hx
  | infinity a =>
      cases y with
      | nan => exact absurd rfl hy
      | infinity b => cases a <;> cases b <;> simp [lt, same]
      | finite b n => cases a <;> simp [lt]
  | finite a m =>
      cases y with
      | nan => exact absurd rfl hy
      | infinity b => cases b <;> simp [lt]
      | finite b n =>
          simp only [lt, same, decide_eq_true_eq]
          omega

theorem sameInt_eq (x : Binary64) (n : Int) : x.sameInt n = (ofInt n).same x := by
  cases x with
  | nan | infinity b => rfl
  | finite b units => simp only [sameInt, ofInt, same, signedUnits_ofInt, eq_comm]

theorem intLt_or_sameInt_or_ltInt {x : Binary64} (hx : x ≠ .nan) (n : Int) :
    intLt n x = true ∨ x.sameInt n = true ∨ x.ltInt n = true := by
  rw [intLt_eq, sameInt_eq, ltInt_eq]
  exact lt_or_same_or_lt Binary64.noConfusion hx

end Number.Binary64

namespace Key

/-- Equal in value: numbers by what they are worth, all other keys as they stand. -/
def same : Key → Key → Bool
  | .float x, .float y => x.same y
  | .integer n, .float x | .float x, .integer n => x.sameInt n
  | a, b => a = b

/-- Keys are before each other or equal in value, unless one is no number. -/
theorem lt_or_same_or_lt {a b : Key} (ha : a ≠ .float .nan) (hb : b ≠ .float .nan) :
    a.lt b = true ∨ a.same b = true ∨ b.lt a = true := by
  have hne : ∀ {x : Binary64}, Key.float x ≠ .float .nan → x ≠ .nan := fun h hx => h (hx ▸ rfl)
  cases a with
  | integer m =>
      cases b with
      | integer n =>
          simp only [lt, same, decide_eq_true_eq, integer.injEq]
          omega
      | float x => exact Binary64.intLt_or_sameInt_or_ltInt (hne hb) m
      | _ => exact .inl rfl
  | float x =>
      cases b with
      | integer n =>
          rcases Binary64.intLt_or_sameInt_or_ltInt (hne ha) n with h | h | h
          · exact .inr (.inr h)
          · exact .inr (.inl h)
          · exact .inl h
      | float y => exact Binary64.lt_or_same_or_lt (hne ha) (hne hb)
      | _ => exact .inl rfl
  | date d =>
      cases b with
      | date e => simpa [lt, same] using d.lt_or_eq_or_lt e
      | integer _ | float _ => exact .inr (.inr rfl)
      | time _ | raw _ => exact .inl rfl
  | time t =>
      cases b with
      | time u => simpa [lt, same] using t.lt_or_eq_or_lt u
      | raw _ => exact .inl rfl
      | _ => exact .inr (.inr rfl)
  | raw s =>
      cases b with
      | raw t =>
          simp only [lt, same, decide_eq_true_eq, raw.injEq]
          by_cases hst : s < t
          · exact .inl hst
          by_cases hts : t < s
          · exact .inr (.inr hts)
          · exact .inr (.inl (String.le_antisymm (String.not_lt.1 hts) (String.not_lt.1 hst)))
      | _ => exact .inr (.inr rfl)

end Key

/-! ## Pairs in order -/

namespace Operand

/-- The two operands in the order of their keys; they stay as they are unless the second is before the
first. -/
def inOrder (a b : Operand) : Operand × Operand := if b.key.lt a.key then (b, a) else (a, b)

theorem inOrder_cases (a b : Operand) : a.inOrder b = (a, b) ∨ a.inOrder b = (b, a) := by
  unfold inOrder
  split
  · exact .inr rfl
  · exact .inl rfl

theorem lt_inOrder_eq_false (a b : Operand) :
    (a.inOrder b).2.key.lt (a.inOrder b).1.key = false := by
  unfold inOrder
  split
  · rename_i hlt
    exact Key.lt_asymm hlt
  · rename_i hlt
    exact Bool.eq_false_iff.2 hlt

/-- Operands with keys of different value come in one order, whichever is given first. -/
theorem inOrder_comm {a b : Operand} (hsame : a.key.same b.key = false)
    (ha : a.key ≠ .float .nan) (hb : b.key ≠ .float .nan) : a.inOrder b = b.inOrder a := by
  unfold inOrder
  rcases Key.lt_or_same_or_lt ha hb with h | h | h
  · rw [if_pos h, if_neg (Bool.eq_false_iff.1 (Key.lt_asymm h))]
  · rw [hsame] at h
    cases h
  · rw [if_pos h, if_neg (Bool.eq_false_iff.1 (Key.lt_asymm h))]

end Operand

/-! ## Operands that spell a value -/

namespace Operand

variable {o l u : Operand}

/-- The text spells what the operand stands for, a moment that is one in universal time too. -/
def spellsValue (o : Operand) : Bool :=
  match o.value? with
  | some (.text _) | none => false
  | some (.time m) => m.universal?.isSome
  | some _ => true

theorem key_eq_raw (h : o.spellsValue = false) : o.key = .raw o.raw := by
  unfold spellsValue at h
  unfold key
  cases hvalue : o.value? with
  | none => rfl
  | some v =>
      simp only [hvalue] at h
      cases v with
      | text s => rfl
      | time m =>
          have hm : m.universal? = none := by simpa using h
          simp only [hm]
      | _ => cases h

theorem rank_key_lt (h : o.spellsValue = true) : o.key.rank < 3 := by
  unfold spellsValue at h
  unfold key
  cases hvalue : o.value? with
  | none =>
      simp only [hvalue] at h
      cases h
  | some v =>
      simp only [hvalue] at h
      cases v with
      | text s => cases h
      | time m =>
          obtain ⟨t, ht⟩ := Option.isSome_iff_exists.1 h
          simp only [ht, Key.rank, Nat.reduceLT]
      | _ => simp only [Key.rank, Nat.reduceLT]

theorem spellsValue_of_raw_eq_empty (h : o.raw = "") : o.spellsValue = false := by
  obtain ⟨k, raw⟩ := o
  obtain rfl : raw = "" := h
  cases k <;> decide

/-- A blank operand comes after those that spell a value. -/
theorem lt_key_iff_of_raw_eq_empty (h : l.raw = "") :
    u.key.lt l.key = true ↔ u.spellsValue = true := by
  rw [key_eq_raw (spellsValue_of_raw_eq_empty h), h]
  cases hu : u.spellsValue with
  | true => exact iff_of_true (Key.lt_raw_of_rank_lt (rank_key_lt hu) "") rfl
  | false =>
      rw [key_eq_raw hu, Key.raw_lt_raw_empty]

/-- A blank operand comes before all others that spell no value. -/
theorem key_lt_iff_of_raw_eq_empty (h : u.raw = "") :
    u.key.lt l.key = true ↔ l.raw ≠ "" ∧ l.spellsValue = false := by
  rw [key_eq_raw (spellsValue_of_raw_eq_empty h), h]
  cases hl : l.spellsValue with
  | true =>
      rw [Key.lt_asymm (Key.lt_raw_of_rank_lt (rank_key_lt hl) "")]
      exact iff_of_false Bool.false_ne_true fun hand => by cases hand.2
  | false => rw [key_eq_raw hl, Key.raw_empty_lt_raw_iff, and_iff_left rfl]

end Operand

end RowFilter
