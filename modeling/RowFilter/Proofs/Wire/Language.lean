import RowFilter.Proofs.Wire.ReadBack

/-!
# The language of a column

`ColumnKind.Speaks` lists, for each kind of column, the texts that its columns accept as conditions.
The grammar says which texts stand for an operation and the operators of the kind which operations
are allowed; together they accept exactly this language.
-/

namespace RowFilter

open RowFilter.Wire

/-! ## Languages -/

namespace ColumnKind

def orderWords : List (List Char) := ["lt.".toList, "gt.".toList, "lte.".toList, "gte.".toList]

/-- The conditions on a column of a kind. -/
def Speaks : ColumnKind → List Char → Prop
  | .text, t => t = "is.null".toList ∨ "eq.".toList <+: t ∨
      ∃ p, t = "ilike.".toList ++ p ∧ (p.head? = some '*' ∨ p.getLast? = some '*')
  | .integer, t | .float, t => t = "is.null".toList ∨
      (∃ w ∈ "eq.".toList :: orderWords, w <+: t) ∧ t ≠ "lt.now".toList ∧ t ≠ "gt.now".toList
  | .date, t => t = "is.null".toList ∨ ∃ w ∈ "eq.".toList :: orderWords, w <+: t
  | .time, t => t = "is.null".toList ∨ ∃ w ∈ orderWords, w <+: t
  | .boolean, t => t ∈ ["is.true".toList, "is.false".toList, "is.null".toList]
  | .enum, t => t = "is.null".toList ∨
      ∃ w ∈ ["in.".toList, "not.in.".toList], ∃ inner, t = w ++ ('(' :: inner ++ [')'])

end ColumnKind

namespace Wire

variable {column : Column} {t : List Char}

/-! ## Conditions of one operator -/

/-- The text is a comparison that no other form claims. -/
def Compares (c : Comparison) (t : List Char) : Prop :=
  ∃ v, t = c.word ++ '.' :: v ∧ (operandText? c v).isSome = true ∧ ¬Claimed c v

/-- The conditions that stand for an operation with the operator. -/
def Conditions : Operator → List Char → Prop
  | .compare c, t => Compares c t
  | .between, _ | .inDate, _ => False
  | .check c, t => t = c.text
  | .truth value, t => t = truthText value
  | .member m, t => ∃ inner, t = m.word ++ '.' :: ('(' :: inner ++ [')'])

/-- A text stands for an operation that the column accepts exactly if it is a condition for one of
the operators of its kind. -/
theorem exists_accepted_iff (hchoices : column.choices.Nodup) :
    (∃ op, Means column t op ∧ column.accepts op = true) ↔
      ∃ o ∈ column.kind.operators, Conditions o t := by
  simp only [← Column.allows_iff]
  constructor
  · rintro ⟨op, hmeans, hacc⟩
    cases hmeans with
    | check c => exact ⟨.check c, hacc, rfl⟩
    | truth value => exact ⟨.truth value, hacc, rfl⟩
    | @compare c v raw k hk hraw hv =>
        obtain ⟨hallows, -⟩ := Column.accepts_compare_iff.1 hacc
        exact ⟨.compare c, hallows, v, rfl, Option.isSome_iff_exists.2 ⟨raw, hraw⟩, hv⟩
    | @member m inner henum =>
        exact ⟨.member m, (Column.accepts_member_iff.1 hacc).1, inner, rfl⟩
  · rintro ⟨o, hallows, ht⟩
    cases o with
    | between | inDate => exact ht.elim
    | check c =>
        cases ht
        exact ⟨_, .check c, hallows⟩
    | truth value =>
        cases ht
        exact ⟨_, .truth value, hallows⟩
    | compare c =>
        obtain ⟨v, rfl, hraw, hv⟩ := ht
        obtain ⟨raw, hraw⟩ := Option.isSome_iff_exists.1 hraw
        obtain ⟨k, hk⟩ := Option.isSome_iff_exists.1 (Column.hasOperand_eq hallows rfl).symm
        exact ⟨_, .compare hk hraw hv, Column.accepts_compare_iff.2 ⟨hallows, hk⟩⟩
    | member m =>
        obtain ⟨inner, rfl⟩ := ht
        refine ⟨_, .member (Column.kind_of_allows_member hallows), ?_⟩
        exact Column.accepts_member_iff.2 ⟨hallows, eraseDups_of_nodup hchoices⟩

/-! ## Comparisons -/

theorem word_prefix_iff {word : List Char} :
    word ++ ['.'] <+: t ↔ ∃ v, t = word ++ '.' :: v := by
  simp only [List.prefix_iff_exists_append_eq, List.append_assoc, List.singleton_append, eq_comm]

theorem operandText?_isSome {c : Comparison} (hc : c.isPattern = false) (v : List Char) :
    (operandText? c v).isSome = true := by
  rw [operandText?, hc, if_neg Bool.false_ne_true, Option.isSome_some]

theorem compares_iff_prefix {c : Comparison} (hc : c.isPattern = false) (hv : ∀ v, ¬Claimed c v) :
    Compares c t ↔ c.word ++ ['.'] <+: t := by
  rw [word_prefix_iff]
  exact exists_congr fun v => and_iff_left ⟨operandText?_isSome hc v, hv v⟩

theorem compares_bound_iff {c : Comparison} (hc : c = .lesserThan ∨ c = .greaterThan) :
    Compares c t ↔ c.word ++ ['.'] <+: t ∧ t ≠ c.word ++ ".now".toList := by
  have hplain : c.isPattern = false := by
    rcases hc with rfl | rfl <;> rfl
  have hclaimed : ∀ v, Claimed c v ↔ v = "now".toList := by
    rcases hc with rfl | rfl <;> exact fun _ => Iff.rfl
  rw [word_prefix_iff, ← exists_and_right]
  refine exists_congr fun v => and_congr_right ?_
  rintro rfl
  rw [hclaimed, ne_eq, List.append_cancel_left_eq, and_iff_right (operandText?_isSome hplain v)]
  exact not_congr (List.cons_inj_right '.').symm

/-- A pattern has a wildcard at one end at least. -/
theorem exists_compares_pattern_iff :
    (Compares .contains t ∨ Compares .startsWith t ∨ Compares .endsWith t) ↔
      ∃ p, t = "ilike.".toList ++ p ∧ (p.head? = some '*' ∨ p.getLast? = some '*') := by
  constructor
  · rintro (⟨v, rfl, hraw, -⟩ | ⟨v, rfl, hraw, -⟩ | ⟨v, rfl, hraw, -⟩) <;>
      obtain ⟨raw, hraw⟩ := Option.isSome_iff_exists.1 hraw <;>
      obtain rfl := comparand_of_isPattern rfl hraw
    · exact ⟨_, rfl, .inl rfl⟩
    · exact ⟨_, rfl, .inr List.getLast?_concat⟩
    · exact ⟨_, rfl, .inl rfl⟩
  · have hread : ∀ (c : Comparison) raw, (operandText? c (comparand c raw)).isSome = true := by
      intro c raw
      rw [operandText?_comparand, Option.isSome_some]
    -- a wildcard at the end leaves the first two patterns, the first if it has another one in front
    have hlast : ∀ raw, Compares .contains ("ilike.".toList ++ (raw ++ ['*'])) ∨
        Compares .startsWith ("ilike.".toList ++ (raw ++ ['*'])) := by
      intro raw
      by_cases hv : Claimed .startsWith (raw ++ ['*'])
      · obtain ⟨raw', hv⟩ := hv
        rw [hv]
        exact .inl ⟨_, rfl, hread .contains raw', id⟩
      · exact .inr ⟨_, rfl, hread .startsWith raw, hv⟩
    rintro ⟨p, rfl, hfirst | hend⟩
    · obtain ⟨raw, rfl⟩ := List.head?_eq_some_iff.1 hfirst
      by_cases hv : Claimed .endsWith ('*' :: raw)
      · obtain ⟨raw', hv⟩ := hv
        rw [hv]
        exact (hlast raw').imp_right .inl
      · exact .inr (.inr ⟨_, rfl, hread .endsWith raw, hv⟩)
    · obtain ⟨raw, rfl⟩ := List.getLast?_eq_some_iff.1 hend
      exact (hlast raw).imp_right .inl

/-! ## From the operators of a kind to its language -/

theorem compares_equals_iff : Compares .equals t ↔ "eq.".toList <+: t :=
  compares_iff_prefix rfl fun _ => id

theorem exists_ordered_iff : (∃ o ∈ Operator.ordered, Conditions o t) ↔
    (∃ w ∈ ColumnKind.orderWords, w <+: t) ∧ t ≠ "lt.now".toList ∧ t ≠ "gt.now".toList := by
  have hlesser : Compares .lesserThan t ↔ "lt.".toList <+: t ∧ t ≠ "lt.now".toList :=
    compares_bound_iff (.inl rfl)
  have hgreater : Compares .greaterThan t ↔ "gt.".toList <+: t ∧ t ≠ "gt.now".toList :=
    compares_bound_iff (.inr rfl)
  have hlesserOrEqual : Compares .lesserOrEqual t ↔ "lte.".toList <+: t :=
    compares_iff_prefix rfl fun _ => id
  have hgreaterOrEqual : Compares .greaterOrEqual t ↔ "gte.".toList <+: t :=
    compares_iff_prefix rfl fun _ => id
  simp only [Operator.ordered, ColumnKind.orderWords, List.mem_cons, List.not_mem_nil, or_false,
    exists_eq_or_imp, exists_eq_left, Conditions, hlesser, hgreater, hlesserOrEqual,
    hgreaterOrEqual]
  by_cases hlt : t = "lt.now".toList
  · subst hlt
    decide
  by_cases hgt : t = "gt.now".toList
  · subst hgt
    decide
  simp only [hlt, hgt, ne_eq, not_false_eq_true, and_true]

theorem exists_mem_cons_ordered {o : Operator} {os : List Operator} :
    (∃ x ∈ o :: (Operator.ordered ++ os), Conditions x t) ↔ Conditions o t ∨
      ((∃ w ∈ ColumnKind.orderWords, w <+: t) ∧ t ≠ "lt.now".toList ∧ t ≠ "gt.now".toList) ∨
        ∃ x ∈ os, Conditions x t := by
  rw [← exists_ordered_iff]
  simp only [List.mem_cons, List.mem_append, or_and_right, exists_or, exists_eq_left]

/-- The conditions for the operators of a kind are the language of the kind. -/
theorem exists_conditions_iff (kind : ColumnKind) :
    (∃ o ∈ kind.operators, Conditions o t) ↔ kind.Speaks t := by
  have hequals : "eq.".toList <+: t → t ≠ "lt.now".toList ∧ t ≠ "gt.now".toList := by
    refine fun h => ⟨?_, ?_⟩ <;> rintro rfl <;> revert h <;> decide
  have hnow : t = "lt.now".toList ∨ t = "gt.now".toList →
      ∃ w ∈ ColumnKind.orderWords, w <+: t := by
    rintro (rfl | rfl) <;> decide
  have hnull : Check.isNull.text = "is.null".toList := rfl
  have hfuture : Check.inFuture.text = "gt.now".toList := rfl
  have hpast : Check.inPast.text = "lt.now".toList := rfl
  cases kind with
  | integer | float | date | time =>
      rw [ColumnKind.operators, ColumnKind.furtherOperators, exists_mem_cons_ordered]
      simp only [ColumnKind.defaultOperator, List.mem_cons, List.not_mem_nil, or_false,
        exists_eq_or_imp, exists_eq_left, Conditions, compares_equals_iff, hnull, hfuture, hpast,
        ColumnKind.Speaks]
      grind
  | text =>
      rw [ColumnKind.Speaks, ← exists_compares_pattern_iff]
      simp only [ColumnKind.operators, ColumnKind.defaultOperator, ColumnKind.furtherOperators,
        List.mem_cons, List.not_mem_nil, or_false, exists_eq_or_imp, exists_eq_left, Conditions,
        compares_equals_iff, hnull]
      grind
  | boolean =>
      simp only [ColumnKind.operators, ColumnKind.defaultOperator, ColumnKind.furtherOperators,
        List.mem_cons, List.not_mem_nil, or_false, exists_eq_or_imp, exists_eq_left, Conditions,
        ColumnKind.Speaks]
      exact Iff.rfl
  | enum =>
      simp only [ColumnKind.operators, ColumnKind.defaultOperator, ColumnKind.furtherOperators,
        List.mem_cons, List.not_mem_nil, or_false, exists_eq_or_imp, exists_eq_left, Conditions,
        ColumnKind.Speaks]
      exact or_assoc.symm.trans or_comm

/-! ## Fragments -/

theorem splitFragment?_eq_some_iff {s key text : List Char} :
    splitFragment? s = some (key, text) ↔ ∃ k v, s = k ++ '=' :: v ∧ '=' ∉ k ∧ k ≠ [] ∧
      Percent.decode k = key ∧ Percent.decode v = text := by
  simp only [splitFragment?, Option.bind_eq_bind, Option.bind_eq_some_iff]
  constructor
  · rintro ⟨v, hv, h⟩
    split at h
    · cases h
    · rename_i hne
      obtain ⟨hs, heq⟩ := eq_of_cutAt (Prod.ext rfl hv)
      obtain ⟨rfl, rfl⟩ := Prod.mk.inj (Option.some.inj h)
      exact ⟨_, v, hs, heq, hne, rfl, rfl⟩
  · rintro ⟨k, v, rfl, heq, hne, rfl, rfl⟩
    refine ⟨v, ?_⟩
    rw [cutAt_append v heq]
    exact ⟨rfl, if_neg hne⟩

/-- A fragment that announces no group is read exactly if its key is the name of the column and its
value is in the language of its kind. -/
theorem parse_isSome_iff {fragment : String} (hchoices : column.choices.Nodup)
    (hkey : Percent.decode (fragment.toList.takeWhile (· ≠ '=')) ≠ "and".toList) :
    (parse column fragment).isSome = true ↔ ∃ key value,
      fragment.toList = key ++ '=' :: value ∧ '=' ∉ key ∧ key ≠ [] ∧
        Percent.decode key = column.name.toList ∧ column.kind.Speaks (Percent.decode value) := by
  have hgroup : ∀ {k v : List Char}, fragment.toList = k ++ '=' :: v → '=' ∉ k →
      Percent.decode k ≠ groupKey := by
    intro k v hs heq hk
    rw [hs, takeWhile_append_cons heq] at hkey
    exact hkey hk
  simp only [← exists_conditions_iff, ← exists_accepted_iff hchoices, Option.isSome_iff_exists,
    parse_eq_some_iff, splitFragment?_eq_some_iff]
  constructor
  · rintro ⟨⟨name, op⟩, key, text, ⟨k, v, hs, heq, hne, rfl, rfl⟩, hread, hacc, -⟩
    rcases readPlain?_cases hread with ⟨hk, -⟩ | ⟨hk, -, hmeans⟩
    · exact absurd hk (hgroup hs heq)
    · exact ⟨k, v, hs, heq, hne, hk, op, hmeans, hacc⟩
  · rintro ⟨k, v, hs, heq, hne, hk, op, hmeans, hacc⟩
    refine ⟨⟨column.name, op⟩, _, _, ⟨k, v, hs, heq, hne, rfl, rfl⟩, ?_, hacc, rfl⟩
    rw [readPlain?, if_neg (hgroup hs heq), if_pos hk, readForms?_eq_some_iff]
    exact hmeans

theorem parse_isSome_not_in :
    let column : Column := ⟨"kind", .enum, ["a", "b,c"], by decide, by decide⟩
    let fragment := "kin%64=not.in.(%22b,c%22)"
    column.choices.Nodup ∧
      Percent.decode (fragment.toList.takeWhile (· ≠ '=')) ≠ "and".toList ∧
        (parse column fragment).isSome = true := by
  intro column fragment
  have hchoices : column.choices.Nodup := by decide
  have hkey : Percent.decode (fragment.toList.takeWhile (· ≠ '=')) ≠ "and".toList := by decide
  refine ⟨hchoices, hkey, (parse_isSome_iff hchoices hkey).2 ?_⟩
  refine ⟨"kin%64".toList, "not.in.(%22b,c%22)".toList, by decide, by decide, by decide, by decide, ?_⟩
  exact .inr ⟨"not.in.".toList, by decide, "\"b,c\"".toList, by decide⟩

end Wire

end RowFilter
