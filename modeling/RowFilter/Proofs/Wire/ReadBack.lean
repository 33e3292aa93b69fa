import RowFilter.Proofs.ChoiceSet
import RowFilter.Proofs.Operation.Accepts
import RowFilter.Proofs.Wire.ValueList

/-!
# Reading what was written

A filter of a column reads back if it is written as one fragment that is read as the same filter.
For each operation that the column allows this comes down to a condition on its operands alone.
-/

namespace RowFilter

open RowFilter.Calendar RowFilter.Wire

namespace Wire

/-! ## Reading plain fragments -/

def readPlain? (column : Column) (key text : List Char) : Option Operation :=
  if key = groupKey then (Leg.ofGroup? text).bind (readGroup? column)
  else if key = column.name.toList then readForms? Form.all column text
  else none

variable {column : Column}

theorem parse_eq_some_iff {fragment : String} {f : Filter} :
    parse column fragment = some f ↔ ∃ key text,
      splitFragment? fragment.toList = some (key, text) ∧
        readPlain? column key text = some f.operation ∧ column.accepts f.operation = true ∧
          f.column = column.name := by
  obtain ⟨name, op⟩ := f
  simp only [parse, parseWith, readOperation?, Option.bind_eq_bind, Option.bind_eq_some_iff]
  constructor
  · rintro ⟨op', ⟨⟨key, text⟩, hsplit, hread⟩, h⟩
    split at h
    · rename_i hacc
      cases h
      exact ⟨key, text, hsplit, hread, hacc, rfl⟩
    · cases h
  · rintro ⟨key, text, hsplit, hread, hacc, rfl⟩
    refine ⟨op, ⟨(key, text), hsplit, hread⟩, ?_⟩
    rw [if_pos hacc]

theorem toList_ne_groupKey {name : String} (hand : name ≠ "and") : name.toList ≠ groupKey :=
  fun h => hand (String.toList_inj.1 h)

theorem readPlain?_name (hand : column.name ≠ "and") (text : List Char) :
    readPlain? column column.name.toList text = readForms? Form.all column text := by
  rw [readPlain?, if_neg (toList_ne_groupKey hand), if_pos rfl]

theorem readPlain?_group (text : List Char) :
    readPlain? column groupKey text = (Leg.ofGroup? text).bind (readGroup? column) := if_pos rfl

theorem readPlain?_cases {key text : List Char} {op : Operation}
    (h : readPlain? column key text = some op) :
    (key = groupKey ∧ ∃ legs, Leg.ofGroup? text = some legs ∧ readGroup? column legs = some op) ∨
      (key = column.name.toList ∧ column.name ≠ "and" ∧ Means column text op) := by
  unfold readPlain? at h
  split at h
  · rename_i hkey
    exact .inl ⟨hkey, Option.bind_eq_some_iff.1 h⟩
  · rename_i hkey
    split at h
    · rename_i hname
      refine .inr ⟨hname, fun hand => hkey ?_, readForms?_eq_some_iff.1 h⟩
      rw [hname, hand]
      rfl
    · cases h

/-- A fragment names the column that it is read for. -/
theorem fragmentColumn?_of_parse {fragment : String} {f : Filter}
    (h : parse column fragment = some f) : fragmentColumn? fragment = some column.name := by
  obtain ⟨key, text, hsplit, hread, -, -⟩ := parse_eq_some_iff.1 h
  simp only [fragmentColumn?, hsplit, Option.bind_eq_bind, Option.bind_some]
  rcases readPlain?_cases hread with ⟨rfl, legs, hlegs, hgroup⟩ | ⟨rfl, hand, -⟩
  · obtain ⟨⟨first, rest, rfl, hfirst⟩, -⟩ := readGroup?_eq_some hgroup
    rw [if_pos rfl, hlegs, Option.bind_some, List.head?_cons, Option.bind_some, hfirst,
      String.ofList_toList]
  · rw [if_neg (toList_ne_groupKey hand), String.ofList_toList]

end Wire

/-! ## Filters that read back -/

def Filter.ReadsBack (column : Column) (f : Filter) : Prop :=
  ∃ w, f.fragments = [w] ∧ parse column w = some f

namespace Filter

theorem fragments_eq_singleton_iff {f : Filter} {w : String} :
    f.fragments = [w] ↔ f.write = .ok w := by
  unfold fragments
  cases f.write with
  | error e => simp [Except.toOption]
  | ok v => simp [Except.toOption]

theorem mem_fragments {f : Filter} {w : String} : w ∈ f.fragments ↔ f.write = .ok w := by
  unfold fragments
  cases f.write with
  | error e => simp [Except.toOption]
  | ok v => simp [Except.toOption, eq_comm]

variable {column : Column} {op : Operation}

/-- A filter reads back exactly if the fragment that is written for it is read as this filter. -/
theorem readsBack_iff_of_parse {f g : Filter} {w : String} (hw : f.fragments = [w])
    (hparse : parse column w = some g) : ReadsBack column f ↔ g = f := by
  constructor
  · rintro ⟨w', hw', hparse'⟩
    obtain rfl : w = w' := (List.cons.inj (hw.symm.trans hw')).1
    exact Option.some.inj (hparse.symm.trans hparse')
  · rintro rfl
    exact ⟨w, hw, hparse⟩

/-- A written fragment is read from the plain key and text of what was written. -/
theorem parse_write_eq_some_iff {w : String} {g : Filter} (hw : write ⟨column.name, op⟩ = .ok w) :
    parse column w = some g ↔ ∃ key text,
      op.plain? column.name.toList = some (key, text) ∧
        readPlain? column key text = some g.operation ∧ column.accepts g.operation = true ∧
          g.column = column.name := by
  rw [parse_eq_some_iff, splitFragment?_write hw column.name_ne]

theorem readsBack_iff (hacc : column.accepts op = true) :
    ReadsBack column ⟨column.name, op⟩ ↔ ∃ key text,
      op.plain? column.name.toList = some (key, text) ∧
        readPlain? column key text = some op := by
  constructor
  · rintro ⟨w, hw, hparse⟩
    rw [fragments_eq_singleton_iff] at hw
    obtain ⟨key, text, hplain, hread, -, -⟩ := (parse_write_eq_some_iff hw).1 hparse
    exact ⟨key, text, hplain, hread⟩
  · rintro ⟨key, text, hplain, hread⟩
    obtain ⟨w, hw⟩ := exists_write (f := ⟨column.name, op⟩) hplain
    exact ⟨w, fragments_eq_singleton_iff.2 hw,
      (parse_write_eq_some_iff hw).2 ⟨key, text, hplain, hread, hacc, rfl⟩⟩

theorem readsBack_iff_of_plain {key text : List Char} (hacc : column.accepts op = true)
    (hplain : op.plain? column.name.toList = some (key, text)) :
    ReadsBack column ⟨column.name, op⟩ ↔ readPlain? column key text = some op := by
  rw [readsBack_iff hacc]
  constructor
  · rintro ⟨key', text', hplain', hread⟩
    rw [hplain] at hplain'
    obtain ⟨rfl, rfl⟩ := Prod.mk.inj (Option.some.inj hplain')
    exact hread
  · intro hread
    exact ⟨_, _, hplain, hread⟩

/-! ## One condition -/

section Single

variable (hand : column.name ≠ "and")
include hand

theorem readsBack_of_condition {text : List Char} (hacc : column.accepts op = true)
    (hplain : op.plain? column.name.toList = some (column.name.toList, text)) :
    ReadsBack column ⟨column.name, op⟩ ↔ Means column text op := by
  rw [readsBack_iff_of_plain hacc hplain, readPlain?_name hand, readForms?_eq_some_iff]

theorem readsBack_compare_iff {c : Comparison} {o : Operand}
    (hacc : column.accepts (.compare c o) = true) :
    ReadsBack column ⟨column.name, .compare c o⟩ ↔ ¬Claimed c (comparand c o.raw.toList) := by
  have hkind := (Column.accepts_compare_iff.1 hacc).2
  rw [readsBack_of_condition hand hacc rfl, means_compare_iff]
  constructor
  · rintro ⟨-, v, hv, -, hclaimed⟩
    obtain ⟨-, rfl⟩ := eq_of_append_cons (point_not_mem_word c) (point_not_mem_word c) hv
    exact hclaimed
  · intro hclaimed
    exact ⟨hkind, _, rfl, operandText?_comparand c _, hclaimed⟩

theorem readsBack_check {c : Check} (hacc : column.accepts (.check c) = true) :
    ReadsBack column ⟨column.name, .check c⟩ :=
  (readsBack_of_condition hand hacc rfl).2 (.check c)

theorem readsBack_truth {value : Bool} (hacc : column.accepts (.truth value) = true) :
    ReadsBack column ⟨column.name, .truth value⟩ :=
  (readsBack_of_condition hand hacc rfl).2 (.truth value)

theorem not_readsBack_checkOver {c : Check} {previous : Operation}
    (hacc : column.accepts (.checkOver c previous) = true) :
    ¬ReadsBack column ⟨column.name, .checkOver c previous⟩ := by
  rw [readsBack_of_condition hand hacc rfl]
  exact not_means_checkOver

theorem readsBack_member_iff {m : Membership} {s : ChoiceSet}
    (hacc : column.accepts (.member m s) = true) :
    ReadsBack column ⟨column.name, .member m s⟩ ↔ column.choices.Nodup := by
  obtain ⟨hallows, hchoices⟩ := Column.accepts_member_iff.1 hacc
  have henum := Column.kind_of_allows_member hallows
  rw [readsBack_of_condition hand hacc rfl, means_member_iff, ← hchoices,
    ← ChoiceSet.ofKnown_selected_eq_iff]
  constructor
  · rintro ⟨-, inner, htext, hs⟩
    obtain ⟨-, hinner⟩ := List.cons.inj (List.append_cancel_left htext)
    obtain ⟨-, rfl⟩ := List.cons.inj (List.append_cancel_right hinner)
    rw [map_decode_items] at hs
    exact hs.symm
  · intro hs
    refine ⟨henum, _, rfl, ?_⟩
    rw [map_decode_items, hs]

end Single

/-! ## Groups -/

section Group

variable (hname : IsLegName column.name.toList)
include hname

theorem readPlain?_groupText (c d : Comparison) (low high : List Char) :
    readPlain? column groupKey
        (groupText (legText column.name.toList c low) (legText column.name.toList d high)) =
      readGroup? column
        [⟨column.name.toList, c.word, low⟩, ⟨column.name.toList, d.word, high⟩] := by
  rw [readPlain?_group, Leg.ofGroup?_groupText hname, Option.bind_some]

theorem parse_group (c d : Comparison) (low high : String) :
    parse column (group (leg column.name c low) (leg column.name d high)) =
      (readGroup? column [⟨column.name.toList, c.word, low.toList⟩,
        ⟨column.name.toList, d.word, high.toList⟩]).bind fun op =>
          if column.accepts op then some ⟨column.name, op⟩ else none := by
  obtain ⟨value, hw, hvalue⟩ := group_spelled column.name c d low high
  have hsplit : splitFragment? (group (leg column.name c low) (leg column.name d high)).toList =
      some (groupKey, groupText (legText column.name.toList c low.toList)
        (legText column.name.toList d high.toList)) := by
    rw [hw, splitFragment?_spelled groupKey hvalue, if_neg (by decide)]
  simp only [parse, parseWith, readOperation?, hsplit, Option.bind_eq_bind, Option.bind_some,
    if_true, Leg.ofGroup?_groupText hname]

/-- The two legs of a group may change places. -/
theorem parse_group_swap {c d : Comparison} (h : c.word ≠ d.word) (low high : String) :
    parse column (group (leg column.name d high) (leg column.name c low)) =
      parse column (group (leg column.name c low) (leg column.name d high)) := by
  rw [parse_group hname, parse_group hname, readGroup?_swap (Ne.symm h)]

theorem readsBack_of_group {c d : Comparison} {low high : List Char}
    (hacc : column.accepts op = true)
    (hplain : op.plain? column.name.toList = some (groupKey,
      groupText (legText column.name.toList c low) (legText column.name.toList d high))) :
    ReadsBack column ⟨column.name, op⟩ ↔
      readGroup? column [⟨column.name.toList, c.word, low⟩, ⟨column.name.toList, d.word, high⟩] =
        some op := by
  rw [readsBack_iff_of_plain hacc hplain, readPlain?_groupText hname]

/-- A range is written as one fragment, which is read with its bounds in order. -/
theorem exists_fragment_parse_between {l u : Operand}
    (hacc : column.accepts (.between l u) = true) :
    ∃ w, fragments ⟨column.name, .between l u⟩ = [w] ∧
      parse column w =
        some ⟨column.name, if u.key.lt l.key then .between u l else .between l u⟩ := by
  obtain ⟨hallows, hl, hu⟩ := Column.accepts_between_iff.1 hacc
  obtain ⟨k, a⟩ := l
  obtain ⟨k', b⟩ := u
  obtain rfl : k = k' := Option.some.inj (hl.symm.trans hu)
  obtain ⟨w, hw⟩ := exists_write (f := ⟨column.name, .between ⟨k, a⟩ ⟨k, b⟩⟩) rfl
  refine ⟨w, fragments_eq_singleton_iff.2 hw, (parse_write_eq_some_iff hw).2
    ⟨_, _, rfl, ?_, ?_, rfl⟩⟩
  · refine (readPlain?_groupText hname ..).trans ?_
    rw [readGroup?_range, range?_eq hl, String.ofList_toList, String.ofList_toList,
      ← apply_ite some]
  · split
    · exact Column.accepts_between_iff.2 ⟨hallows, hu, hl⟩
    · exact hacc

theorem readsBack_between_iff {l u : Operand} (hacc : column.accepts (.between l u) = true) :
    ReadsBack column ⟨column.name, .between l u⟩ ↔ u.key.lt l.key = false := by
  obtain ⟨w, hw, hparse⟩ := exists_fragment_parse_between hname hacc
  rw [readsBack_iff_of_parse hw hparse]
  cases hlt : u.key.lt l.key with
  | false => exact iff_of_true rfl rfl
  | true =>
      refine iff_of_false (fun h => ?_) (fun h => by cases h)
      -- a range that is equal to the one with its bounds exchanged has equal bounds
      obtain ⟨rfl, -⟩ := Operation.between.inj (Filter.mk.inj h).2
      rw [Key.lt_irrefl] at hlt
      cases hlt

theorem readsBack_inDate_iff {d : Operand} (hacc : column.accepts (.inDate d) = true) :
    ReadsBack column ⟨column.name, .inDate d⟩ ↔
      ∃ day : Date, day.lt .last = true ∧ d.raw = String.ofList day.text := by
  obtain ⟨hallows, hkind⟩ := Column.accepts_inDate_iff.1 hacc
  have htime := Column.kind_of_allows_inDate hallows
  -- the day that is read back is the one between the written bounds
  have hread : ∀ day next : Date, day.next? = some next →
      dayBounds? d.raw = some (midnightText day, midnightText next) →
      (ReadsBack column ⟨column.name, .inDate d⟩ ↔ d.raw = String.ofList day.text) := by
    intro day next hnext hbounds
    rw [readsBack_of_group hname hacc (Operation.plain?_inDate hbounds _), readGroup?_day htime,
      wholeDay?_midnightText hnext]
    obtain ⟨k, raw⟩ := d
    obtain rfl : k = .date := hkind
    simp [eq_comm]
  constructor
  · intro h
    obtain ⟨key, text, hplain, -⟩ := (readsBack_iff hacc).1 h
    obtain ⟨⟨first, last⟩, hbounds, -⟩ := Option.map_eq_some_iff.1 hplain
    obtain ⟨day, next, hnext, rfl, rfl⟩ := dayBounds?_eq_some hbounds
    refine ⟨day, ?_, (hread day next hnext hbounds).1 h⟩
    rw [← Date.next?_isSome_iff, hnext, Option.isSome_some]
  · rintro ⟨day, hday, hraw⟩
    obtain ⟨next, hnext⟩ := Option.isSome_iff_exists.1 (day.next?_isSome_iff.2 hday)
    refine (hread day next hnext ?_).2 hraw
    rw [hraw, dayBounds?_text hnext]

end Group

end Filter

end RowFilter
