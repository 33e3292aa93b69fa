import RowFilter.Proofs.Number.Integer
import RowFilter.Proofs.Wire.Reparse

/-!
# Columns whose filters read back

Names are not quoted, so a range reads back only if the name of its column stays whole among the legs
of the group, and a single condition only if the name does not announce a group. Choices are listed
once each in what is read, so a membership reads back only if its column lists them once.
-/

namespace RowFilter

open RowFilter.Calendar RowFilter.Number RowFilter.Wire

/-! ## Operands of integers -/

theorem Wire.Quoted.isReserved_of_mem_textChars {c : Char} (h : c ∈ textChars) :
    isReserved c = false := by
  have hall : (textChars.all fun c => !isReserved c) = true := rfl
  simpa using List.all_eq_true.1 hall c h

namespace Operand

def ofInt (n : Int) : Operand := ⟨.integer, String.ofList (integerText n)⟩

theorem raw_ofInt (n : Int) : (ofInt n).raw.toList = integerText n := String.toList_ofList

theorem key_ofInt {n : Int} (h : (Nat.toDigits 10 n.natAbs).length ≤ maxDigits) :
    (ofInt n).key = .integer n := by
  have hvalue : (ofInt n).value? = some (.integer n) := by
    simp only [value?, ofInt, String.toList_ofList, trim_of_subset (integerText_subset n),
      readInteger_integerText h, Except.toOption, Option.map_some]
  rw [key, hvalue]

theorem needsQuotes_ofInt (n : Int) :
    Quoted.needsQuotes .nested (ofInt n).raw.toList = false := by
  rw [raw_ofInt, Quoted.needsQuotes, trim_of_subset (integerText_subset n)]
  simp only [integerText_ne_nil, ne_eq, not_true_eq_false, decide_false, Bool.false_or,
    List.any_eq_false, Bool.not_eq_true]
  exact fun c hc => Quoted.isReserved_of_mem_textChars (integerText_subset n hc)

end Operand

namespace Filter

variable {column : Column} {op : Operation}

/-! ## Names -/

/-- A condition on a column with the name that announces a group is read as a group. -/
theorem not_readsBack_of_and {text : List Char} (hand : column.name = "and")
    (hacc : column.accepts op = true)
    (hplain : op.plain? column.name.toList = some (column.name.toList, text))
    (hopen : text.head? ≠ some '(') : ¬ReadsBack column ⟨column.name, op⟩ := by
  have hgroup : Leg.ofGroup? text = none := by
    have hunwrap : TopLevel.unwrapParens? text = none := by
      rw [Option.eq_none_iff_forall_ne_some]
      intro inner h
      rw [TopLevel.unwrapParens?_eq_some_iff.1 h] at hopen
      exact hopen rfl
    simp only [Leg.ofGroup?, hunwrap, Option.bind_eq_bind, Option.bind_none]
  have hkey : column.name.toList = groupKey := by
    rw [hand]
    rfl
  rw [readsBack_iff_of_plain hacc hplain, hkey, readPlain?_group, hgroup]
  exact Option.some_ne_none _ ∘ Eq.symm

theorem readsBack_between_iff_isLegName {l u : Operand}
    (hacc : column.accepts (.between l u) = true)
    (hl : Quoted.needsQuotes .nested l.raw.toList = false)
    (hu : Quoted.needsQuotes .nested u.raw.toList = false) :
    ReadsBack column ⟨column.name, .between l u⟩ ↔
      IsLegName column.name.toList ∧ u.key.lt l.key = false := by
  constructor
  · intro h
    have hread := (readsBack_iff_of_plain hacc rfl).1 h
    rw [readPlain?_group, Option.bind_eq_some_iff] at hread
    obtain ⟨legs, hlegs, hgroup⟩ := hread
    obtain ⟨hlength, hall⟩ := legs_of_readGroup? hgroup
    have hname := Leg.isLegName_of_ofGroup?_groupText hl hu hlegs hlength hall
    exact ⟨hname, (readsBack_between_iff hname hacc).1 h⟩
  · rintro ⟨hname, hlt⟩
    exact (readsBack_between_iff hname hacc).2 hlt

/-- On a column of integers an equality reads back unless the name is the one that announces a group.
A range in order reads back exactly if the name has no point and leads the scan of a list back to its
start without being cut. -/
theorem readsBack_integer_iff (hkind : column.kind = .integer) (a b : Int) :
    (ReadsBack column ⟨column.name, .compare .equals (.ofInt a)⟩ ↔ column.name ≠ "and") ∧
      (a ≤ b → (Nat.toDigits 10 a.natAbs).length ≤ maxDigits →
        (Nat.toDigits 10 b.natAbs).length ≤ maxDigits →
        (ReadsBack column ⟨column.name, .between (.ofInt a) (.ofInt b)⟩ ↔
          '.' ∉ column.name.toList ∧ TopLevel.IsPart [','] column.name.toList)) := by
  have hequals : column.accepts (.compare .equals (.ofInt a)) = true := by
    simp only [Column.accepts, Column.allows, hkind]
    rfl
  have hbetween : column.accepts (.between (.ofInt a) (.ofInt b)) = true := by
    simp only [Column.accepts, Column.allows, hkind]
    rfl
  refine ⟨⟨?_, fun hand => (readsBack_compare_iff hand hequals).2 id⟩, fun hab ha hb => ?_⟩
  · rintro h hand
    have hopen : (Comparison.equals.word ++ '.' ::
        comparand .equals (Operand.ofInt a).raw.toList).head? ≠ some '(' := by
      show some 'e' ≠ some '('
      decide
    exact not_readsBack_of_and hand hequals rfl hopen h
  · have hlt : (Operand.ofInt b).key.lt (Operand.ofInt a).key = false := by
      rw [Operand.key_ofInt ha, Operand.key_ofInt hb]
      exact decide_eq_false (Int.not_lt.2 hab)
    rw [readsBack_between_iff_isLegName hbetween (Operand.needsQuotes_ofInt a)
      (Operand.needsQuotes_ofInt b), and_iff_left hlt]
    constructor
    · exact fun h => ⟨h.no_point, h.part⟩
    · rintro ⟨hpoint, hpart⟩
      exact ⟨fun h => column.name_ne (String.toList_eq_nil_iff.1 h), hpoint, hpart⟩

theorem readsBack_integer_parens :
    let column : Column := ⟨"a(,)", .integer, [], by decide, by decide⟩
    column.kind = .integer ∧ (-7 : Int) ≤ 12 ∧
      (Nat.toDigits 10 (-7 : Int).natAbs).length ≤ maxDigits ∧
      (Nat.toDigits 10 (12 : Int).natAbs).length ≤ maxDigits ∧
      ReadsBack column ⟨column.name, .compare .equals (.ofInt (-7))⟩ ∧
      ReadsBack column ⟨column.name, .between (.ofInt (-7)) (.ofInt 12)⟩ := by
  intro column
  have hname : column.name.toList = ['a', '(', ',', ')'] := by decide
  have hpart : TopLevel.IsPart [','] column.name.toList := by
    rw [hname]
    exact .cons (by decide) (.cons (by decide) (.cons (by decide) (.cons (by decide) .nil)))
  obtain ⟨hequals, hrange⟩ := @readsBack_integer_iff column rfl (-7) 12
  exact ⟨rfl, by decide, by decide, by decide, hequals.2 (by decide),
    (hrange (by decide) (by decide) (by decide)).2 ⟨by decide, hpart⟩⟩

/-- A point in a name takes its legs apart at the wrong place, and a column named like a group cannot
be asked for a single value. -/
theorem parse_written_name_eq_none :
    let dotted : Column := ⟨"a.b", .integer, [], by decide, by decide⟩
    let group : Column := ⟨"and", .integer, [], by decide, by decide⟩
    (Filter.fragments ⟨"a.b", .between (.ofInt 1) (.ofInt 2)⟩ = ["and=(a.b.gte.1,a.b.lte.2)"] ∧
      parse dotted "and=(a.b.gte.1,a.b.lte.2)" = none) ∧
    (Filter.fragments ⟨"and", .compare .equals (.ofInt 5)⟩ = ["and=eq.5"] ∧
      parse group "and=eq.5" = none) := by
  intro dotted group
  exact ⟨⟨by decide +kernel, by decide +kernel⟩, by decide +kernel, by decide +kernel⟩

/-! ## Choices -/

/-- No membership is read for a column that lists a choice twice. -/
theorem nodup_of_parse_member {fragment : String} {f : Filter} {m : Membership} {s : ChoiceSet}
    (h : parse column fragment = some f) (hmember : f.operation = .member m s) :
    column.choices.Nodup := by
  have hcanonical := isCanonical_of_parse h
  rw [hmember] at hcanonical
  exact hcanonical.2

/-- A membership in the choices of a column is allowed and written as one fragment, which is read as
the same filter if the column lists every choice once and as nothing otherwise. -/
theorem exists_fragment_parse_member (hand : column.name ≠ "and") (henum : column.kind = .enum)
    (m : Membership) (s : ChoiceSet) (hs : s.choices = column.choices) :
    column.accepts (.member m s) = true ∧ ∃ w, fragments ⟨column.name, .member m s⟩ = [w] ∧
      parse column w = if column.choices.Nodup then some ⟨column.name, .member m s⟩ else none := by
  have hacc : column.accepts (.member m s) = true := by
    have hallows : column.allows (.member m) = true := by
      rw [Column.allows, henum]
      cases m <;> rfl
    simp only [Column.accepts, hallows, hs, decide_true, Bool.and_self]
  refine ⟨hacc, ?_⟩
  by_cases hnodup : column.choices.Nodup
  · rw [if_pos hnodup]
    exact (readsBack_member_iff hand hacc).2 hnodup
  · rw [if_neg hnodup]
    obtain ⟨w, hw⟩ := exists_write (f := ⟨column.name, .member m s⟩) rfl
    refine ⟨w, fragments_eq_singleton_iff.2 hw, ?_⟩
    rw [Option.eq_none_iff_forall_ne_some]
    intro f hparse
    obtain ⟨key, text, hplain, hread, -, -⟩ := (parse_write_eq_some_iff hw).1 hparse
    obtain ⟨rfl, rfl⟩ := Prod.mk.inj (Option.some.inj hplain)
    -- the fragment can only be read as a membership
    rw [readPlain?_name hand, readForms?_member henum] at hread
    exact hnodup (nodup_of_parse_member hparse (Option.some.inj hread).symm)

theorem parse_written_choice :
    let column : Column := ⟨"kind", .enum, ["", "a,b", "(\"x"], by decide, by decide⟩
    let s : ChoiceSet := ⟨["", "a,b", "(\"x"], ["a,b"], by decide⟩
    column.name ≠ "and" ∧ column.kind = .enum ∧ s.choices = column.choices ∧
      column.accepts (.member .noneOf s) = true ∧
        ∃ w, fragments ⟨column.name, .member .noneOf s⟩ = [w] ∧
          parse column w = some ⟨column.name, .member .noneOf s⟩ := by
  intro column s
  have hand : column.name ≠ "and" := by decide
  have hnodup : column.choices.Nodup := by decide
  have h := exists_fragment_parse_member hand rfl .noneOf s rfl
  rw [if_pos hnodup] at h
  exact ⟨hand, rfl, rfl, h⟩

/-- What is read lists `a` once, so the column refuses it. -/
theorem parse_written_choice_twice_eq_none :
    let column : Column := ⟨"kind", .enum, ["a", "b", "a"], by decide, by decide⟩
    let s : ChoiceSet := ⟨["a", "b", "a"], ["a"], by decide⟩
    s.choices = column.choices ∧ column.accepts (.member .oneOf s) = true ∧
      fragments ⟨column.name, .member .oneOf s⟩ = ["kind=in.(a,a)"] ∧
        parse column "kind=in.(a,a)" = none := by
  intro column s
  exact ⟨rfl, rfl, by decide +kernel, by decide +kernel⟩

end Filter

end RowFilter
