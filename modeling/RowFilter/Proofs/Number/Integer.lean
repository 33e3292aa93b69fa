import Mathlib.Data.List.TakeWhile
import RowFilter.Number.Integer
import RowFilter.Proofs.Calendar.Date

/-!
# Integers and their texts

The decimal text of an integer consists of digits with an optional minus sign, and it is read as that
integer unless it has too many digits.
-/

namespace RowFilter.Number

open RowFilter.Text RowFilter.Calendar

/-- The decimal text of an integer. -/
def integerText (n : Int) : List Char :=
  (if n < 0 then ['-'] else []) ++ Nat.toDigits 10 n.natAbs

/-! ## Characters of an integer text -/

theorem isDigit_of_mem_toDigits {n : Nat} {c : Char} (h : c ∈ Nat.toDigits 10 n) :
    c.isDigit = true :=
  Nat.isDigit_of_mem_toDigits (by decide) (by decide) h

theorem toNat_of_isDigit {c : Char} (h : c.isDigit = true) : 48 ≤ c.toNat ∧ c.toNat ≤ 57 := by
  simp only [Char.isDigit, Bool.and_eq_true, decide_eq_true_eq, ge_iff_le,
    UInt32.le_iff_toNat_le] at h
  exact h

theorem mem_textChars_of_isDigit {c : Char} (h : c.isDigit = true) : c ∈ textChars := by
  have hrange := toNat_of_isDigit h
  have hvalue : '0'.toNat + (c.toNat - 48) = c.toNat := Nat.add_sub_of_le hrange.1
  have hmem := digit_mem_textChars (d := c.toNat - 48) (by omega)
  rwa [hvalue, Char.ofNat_toNat] at hmem

theorem integerText_subset (n : Int) : integerText n ⊆ textChars := by
  refine List.append_subset.2 ⟨?_, fun c hc => mem_textChars_of_isDigit (isDigit_of_mem_toDigits hc)⟩
  split
  · decide
  · exact List.nil_subset _

theorem integerText_ne_nil (n : Int) : integerText n ≠ [] :=
  List.append_ne_nil_of_right_ne_nil _ Nat.toDigits_ne_nil

/-! ## Reading an integer text -/

theorem asciiDigit?_of_isDigit {c : Char} (h : c.isDigit = true) :
    asciiDigit? c = some (c.toNat - '0'.toNat) := by
  simp only [Char.isDigit, Bool.and_eq_true, decide_eq_true_eq] at h
  exact if_pos h

theorem natOfDigits_eq {digits : List Char} (h : ∀ c ∈ digits, c.isDigit = true) :
    natOfDigits digits = Nat.ofDigitChars 10 digits 0 := by
  unfold natOfDigits Nat.ofDigitChars
  generalize 0 = n
  induction digits generalizing n with
  | nil => rfl
  | cons c digits ih =>
      obtain ⟨hc, hdigits⟩ := List.forall_mem_cons.1 h
      simp only [List.foldl_cons, asciiDigit?_of_isDigit hc]
      exact ih hdigits _

theorem splitSign_of_isDigit {digits : List Char} (h : ∀ c ∈ digits, c.isDigit = true) :
    splitSign digits = (.plus, digits) := by
  unfold splitSign
  split
  · exact absurd (h _ (List.mem_cons_self ..)) (by decide)
  · exact absurd (h _ (List.mem_cons_self ..)) (by decide)
  · rfl

theorem splitSign_integerText (n : Int) :
    splitSign (integerText n) = (if n < 0 then .minus else .plus, Nat.toDigits 10 n.natAbs) := by
  unfold integerText
  split
  · rfl
  · exact splitSign_of_isDigit fun _ => isDigit_of_mem_toDigits

theorem toAsciiNumeral_of_mem_textChars {c : Char} (h : c ∈ textChars) : toAsciiNumeral c = c := by
  have hall : (textChars.all fun c => toAsciiNumeral c == c) = true := rfl
  simpa using List.all_eq_true.1 hall c h

theorem isAsciiBlank_of_mem_textChars {c : Char} (h : c ∈ textChars) : isAsciiBlank c = false := by
  have hall : (textChars.all fun c => !isAsciiBlank c) = true := rfl
  simpa using List.all_eq_true.1 hall c h

theorem map_toAsciiNumeral_of_subset {s : List Char} (h : s ⊆ textChars) :
    s.map toAsciiNumeral = s :=
  (List.map_congr_left fun _ hc => toAsciiNumeral_of_mem_textChars (h hc)).trans (List.map_id s)

theorem dropWhile_isAsciiBlank_of_subset {s : List Char} (h : s ⊆ textChars) :
    s.dropWhile isAsciiBlank = s := by
  cases s with
  | nil => rfl
  | cons c s =>
      rw [List.dropWhile_cons, isAsciiBlank_of_mem_textChars (h (List.mem_cons_self ..))]
      rfl

theorem underscoresSeparate_of_isDigit {digits : List Char} (h : ∀ c ∈ digits, c.isDigit = true)
    (afterDigit : Bool) : underscoresSeparate afterDigit digits = true := by
  induction digits generalizing afterDigit with
  | nil => rfl
  | cons c digits ih =>
      obtain ⟨hc, hdigits⟩ := List.forall_mem_cons.1 h
      have hne : c ≠ '_' := by
        rintro rfl
        exact absurd hc (by decide)
      rw [underscoresSeparate, if_neg hne]
      exact ih hdigits _

theorem readInteger_of_splitSign {s digits : List Char} {sign : Sign} (hs : s ⊆ textChars)
    (hsign : splitSign s = (sign, digits)) (hdigits : ∀ c ∈ digits, c.isDigit = true)
    (hne : digits ≠ []) (hlength : digits.length ≤ maxDigits) :
    readInteger s =
      .ok (if sign = .minus then -(natOfDigits digits : Int) else natOfDigits digits) := by
  have hnumeral : ∀ c ∈ digits, isNumeralChar c = true := by
    intro c hc
    rw [isNumeralChar, hdigits c hc, Bool.true_or]
  have htake : digits.takeWhile isNumeralChar = digits := List.takeWhile_eq_self_iff.2 hnumeral
  have hdrop : digits.dropWhile isNumeralChar = [] := List.dropWhile_eq_nil_iff.2 hnumeral
  have hcount : digits.countP Char.isDigit = digits.length := List.countP_eq_length.2 hdigits
  have hzero : digits.length ≠ 0 := fun h => hne (List.length_eq_zero_iff.1 h)
  simp only [readInteger, map_toAsciiNumeral_of_subset hs, dropWhile_isAsciiBlank_of_subset hs,
    hsign, htake, hdrop, hcount, underscoresSeparate_of_isDigit hdigits, Bool.not_true,
    Bool.false_eq_true, if_false, Nat.not_lt.2 hlength, hzero, List.any_nil, decide_false,
    Bool.or_false]
  cases sign <;> rfl

/-- The text of an integer is read as the integer. -/
theorem readInteger_integerText {n : Int} (h : (Nat.toDigits 10 n.natAbs).length ≤ maxDigits) :
    readInteger (integerText n) = .ok n := by
  have hdigits : ∀ c ∈ Nat.toDigits 10 n.natAbs, c.isDigit = true :=
    fun _ => isDigit_of_mem_toDigits
  rw [readInteger_of_splitSign (integerText_subset n) (splitSign_integerText n) hdigits
    Nat.toDigits_ne_nil h, natOfDigits_eq hdigits, Nat.ofDigitChars_ten_toDigits]
  by_cases hn : n < 0
  · rw [if_pos hn, if_pos rfl, Int.ofNat_natAbs_of_nonpos (Int.le_of_lt hn), Int.neg_neg]
  · rw [if_neg hn, if_neg (by decide), Int.natAbs_of_nonneg (Int.not_lt.1 hn)]

end RowFilter.Number
