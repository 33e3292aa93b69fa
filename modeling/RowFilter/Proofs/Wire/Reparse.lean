import RowFilter.Proofs.Wire.Canonical

/-!
# Writing what was read

A filter that was read from any fragment is in a form that reads back, with one exception: a bound
that was quoted to mean the text `now` is written without quotes and then means the present moment.
-/

namespace RowFilter

open RowFilter.Calendar RowFilter.Wire

/-- The bounds whose text is written like the present moment. -/
def Operation.SpellsNow : Operation → Prop
  | .compare .lesserThan o | .compare .greaterThan o => o.raw = "now"
  | _ => False

namespace Wire

variable {column : Column} {key text : List Char} {op : Operation}

/-! ## Operations that are read -/

/-- A filter is written under the key that it was read from. -/
theorem exists_plain_of_readPlain? (h : readPlain? column key text = some op) :
    ∃ text', op.plain? column.name.toList = some (key, text') := by
  rcases readPlain?_cases h with ⟨rfl, legs, -, hgroup⟩ | ⟨rfl, -, hmeans⟩
  · rcases readGroup?_cases hgroup with ⟨l, u, rfl, -⟩ | ⟨day, hday, rfl⟩
    · exact ⟨_, rfl⟩
    · obtain ⟨next, hnext⟩ := Option.isSome_iff_exists.1 (day.next?_isSome_iff.2 hday)
      exact ⟨_, Operation.plain?_inDate (d := ⟨.date, _⟩) (dayBounds?_text hnext) _⟩
  · cases hmeans with
    | _ => exact ⟨_, rfl⟩

theorem isLegName_of_readGroup? {legs : List Leg}
    (hname : ∀ c ∈ column.name.toList, c ≠ '"' ∧ c ≠ '(')
    (hlegs : Leg.ofGroup? text = some legs) (h : readGroup? column legs = some op) :
    IsLegName column.name.toList := by
  obtain ⟨⟨first, rest, rfl, hfirst⟩, -⟩ := readGroup?_eq_some h
  rw [← hfirst] at hname ⊢
  exact Leg.isLegName_of_ofGroup? hlegs (List.mem_cons_self ..) hname

/-- The comparand that is written for one that was read is claimed only where it spells the present
moment. -/
theorem claimed_comparand_of_read {c : Comparison} {v : List Char} {o : Operand}
    (hraw : operandText? c v = some o.raw.toList) (hv : ¬Claimed c v) :
    Claimed c (comparand c o.raw.toList) ↔ (Operation.compare c o).SpellsNow := by
  cases hc : c.isPattern with
  | true =>
      rw [comparand_of_isPattern hc hraw]
      refine iff_of_false hv ?_
      cases c with
      | contains | startsWith | endsWith => exact id
      | _ => cases hc
  | false =>
      cases c with
      | contains | startsWith | endsWith => cases hc
      | lesserThan | greaterThan => exact encode_alone_eq_now_iff.trans String.toList_inj
      | _ => exact Iff.rfl

end Wire

namespace Filter

variable {column : Column} {fragment : String} {f : Filter}

theorem readsBack_of_parse_iff (hname : ∀ c ∈ column.name.toList, c ≠ '"' ∧ c ≠ '(')
    (h : parse column fragment = some f) : f.ReadsBack column ↔ ¬f.operation.SpellsNow := by
  obtain ⟨key, text, -, hread, hacc, hcolumn⟩ := parse_eq_some_iff.1 h
  obtain ⟨name, op⟩ := f
  obtain rfl : name = column.name := hcolumn
  rcases readPlain?_cases hread with ⟨-, legs, hlegs, hgroup⟩ | ⟨-, hand, hmeans⟩
  · have hleg := isLegName_of_readGroup? hname hlegs hgroup
    rcases readGroup?_cases hgroup with ⟨l, u, rfl, hlt⟩ | ⟨day, hday, rfl⟩
    · exact iff_of_true ((readsBack_between_iff hleg hacc).2 hlt) id
    · exact iff_of_true ((readsBack_inDate_iff hleg hacc).2 ⟨day, hday, rfl⟩) id
  · cases hmeans with
    | check c => exact iff_of_true (readsBack_check hand hacc) id
    | truth value => exact iff_of_true (readsBack_truth hand hacc) id
    | compare hk hraw hv =>
        rw [readsBack_compare_iff hand hacc]
        refine not_congr (claimed_comparand_of_read ?_ hv)
        rw [String.toList_ofList, hraw]
    | member henum =>
        have hchoices := (Column.accepts_member_iff.1 hacc).2
        exact iff_of_true ((readsBack_member_iff hand hacc).2 (eraseDups_eq_self_iff.1 hchoices)) id

/-! ## Reading twice -/

theorem eq_of_word_eq {c d : Comparison} (hd : d = .lesserThan ∨ d = .greaterThan)
    (h : c.word = d.word) : c = d := by
  rcases hd with rfl | rfl
  · cases c <;> first | rfl | exact absurd h (by decide)
  · cases c <;> first | rfl | exact absurd h (by decide)

theorem exists_of_spellsNow {op : Operation} (h : op.SpellsNow) :
    ∃ c o, op = .compare c o ∧ (c = .lesserThan ∨ c = .greaterThan) ∧ o.raw = "now" := by
  cases op with
  | compare c o =>
      cases c with
      | lesserThan => exact ⟨_, _, rfl, .inl rfl, h⟩
      | greaterThan => exact ⟨_, _, rfl, .inr rfl, h⟩
      | _ => exact h.elim
  | _ => exact h.elim

/-- The text `now` is never written in quotes, so a written fragment is not read as a bound with this
text. -/
theorem not_spellsNow_of_plain {op op' : Operation} {name key text : List Char}
    (hplain : op.plain? name = some (key, text)) (hkey : key ≠ groupKey)
    (h : Means column text op') : ¬op'.SpellsNow := by
  intro hnow
  obtain ⟨c, o, rfl, hc, ho⟩ := exists_of_spellsNow hnow
  obtain ⟨-, v, rfl, hraw, hclaimed⟩ := means_compare_iff.1 h
  have hv : v ≠ "now".toList := by
    rcases hc with rfl | rfl <;> exact hclaimed
  have hpoint := point_not_mem_word c
  have hlead : leadingWord (c.word ++ '.' :: v) ∈ ["lt".toList, "gt".toList] := by
    rw [leadingWord_append hpoint]
    rcases hc with rfl | rfl <;> decide
  cases op with
  | compare c' o' =>
      -- the words agree, so the value was written for the text `now` and has no quotes
      obtain ⟨-, htext⟩ := Prod.mk.inj (Option.some.inj hplain)
      obtain ⟨hword, rfl⟩ := eq_of_append_cons (point_not_mem_word c') hpoint htext
      obtain rfl := eq_of_word_eq hc hword
      rw [operandText?_comparand, ho] at hraw
      rw [Option.some.inj hraw] at hv
      rcases hc with rfl | rfl <;> exact hv (encode_alone_eq_now_iff.2 rfl)
  | between l u => exact hkey (Prod.mk.inj (Option.some.inj hplain)).1.symm
  | inDate d =>
      obtain ⟨bounds, -, hplain⟩ := Option.map_eq_some_iff.1 hplain
      exact hkey (Prod.mk.inj hplain).1.symm
  | check d | checkOver d previous =>
      obtain ⟨-, htext⟩ := Prod.mk.inj (Option.some.inj hplain)
      cases d with
      | isNull =>
          rw [← htext] at hlead
          exact absurd hlead (by decide)
      | inFuture => exact hv (eq_of_append_cons (point_not_mem_word .greaterThan) hpoint htext).2.symm
      | inPast => exact hv (eq_of_append_cons (point_not_mem_word .lesserThan) hpoint htext).2.symm
  | truth value =>
      obtain ⟨-, htext⟩ := Prod.mk.inj (Option.some.inj hplain)
      rw [← htext] at hlead
      cases value <;> exact absurd hlead (by decide)
  | member m s =>
      obtain ⟨-, htext⟩ := Prod.mk.inj (Option.some.inj hplain)
      rw [← htext, leadingWord_member] at hlead
      cases m <;> exact absurd hlead (by decide)

theorem not_spellsNow_of_parse_write {g : Filter} {w : String} (hw : f.write = .ok w)
    (h : parse column w = some g) : ¬g.operation.SpellsNow := by
  obtain ⟨key, text, hsplit, hread, -, -⟩ := parse_eq_some_iff.1 h
  rcases readPlain?_cases hread with ⟨-, legs, -, hgroup⟩ | ⟨rfl, hand, hmeans⟩
  · rcases readGroup?_cases hgroup with ⟨l, u, hop, -⟩ | ⟨day, -, hop⟩
    · rw [hop]
      exact id
    · rw [hop]
      exact id
  · exact not_spellsNow_of_plain (plain?_of_splitFragment? hw hsplit).1 (toList_ne_groupKey hand)
      hmeans

/-- A filter that was read from a written fragment reads back. -/
theorem readsBack_of_parse_write (hname : ∀ c ∈ column.name.toList, c ≠ '"' ∧ c ≠ '(')
    {g : Filter} {w : String} (hw : f.write = .ok w) (h : parse column w = some g) :
    g.ReadsBack column :=
  (readsBack_of_parse_iff hname h).2 (not_spellsNow_of_parse_write hw h)

/-! ## One fragment for what was read -/

/-- A filter that was read is written as one fragment, and this is read as the filter unless it spells
the present moment. -/
theorem exists_fragment_parse_iff (hname : ∀ c ∈ column.name.toList, c ≠ '"' ∧ c ≠ '(')
    (h : parse column fragment = some f) :
    ∃ w, f.fragments = [w] ∧ (parse column w = some f ↔ ¬f.operation.SpellsNow) := by
  obtain ⟨w, hw⟩ := exists_fragment_of_parse h
  refine ⟨w, hw, ?_⟩
  rw [← readsBack_of_parse_iff hname h]
  constructor
  · intro hparse
    exact ⟨w, hw, hparse⟩
  · rintro ⟨w', hw', hparse⟩
    rw [hw] at hw'
    obtain ⟨rfl, -⟩ := List.cons.inj hw'
    exact hparse

theorem parse_quoted_seven :
    let column : Column := ⟨"age", .integer, [], by decide, by decide⟩
    let f : Filter := ⟨"age", .compare .lesserThan ⟨.integer, "7"⟩⟩
    (∀ c ∈ column.name.toList, c ≠ '"' ∧ c ≠ '(') ∧ parse column "age=lt.\"7\"" = some f ∧
      ∃ w, f.fragments = [w] ∧ parse column w = some f := by
  intro column f
  have hname : ∀ c ∈ column.name.toList, c ≠ '"' ∧ c ≠ '(' := by simp [column]
  have hread : parse column "age=lt.\"7\"" = some f := by decide +kernel
  obtain ⟨w, hw, hback⟩ := exists_fragment_parse_iff hname hread
  exact ⟨hname, hread, w, hw, hback.2 (by decide : "7" ≠ "now")⟩

/-- A quoted `now` is read as a text, written without quotes and then read as nothing. -/
theorem parse_quoted_now :
    let column : Column := ⟨"age", .integer, [], by decide, by decide⟩
    let f : Filter := ⟨"age", .compare .lesserThan ⟨.integer, "now"⟩⟩
    (∀ c ∈ column.name.toList, c ≠ '"' ∧ c ≠ '(') ∧ parse column "age=lt.\"now\"" = some f ∧
      f.fragments = ["age=lt.now"] ∧ parse column "age=lt.now" = none := by
  intro column f
  exact ⟨by simp [column], by decide +kernel, by decide +kernel, by decide +kernel⟩

end Filter

end RowFilter
