import RowFilter.Proofs.Wire.Form
import RowFilter.Proofs.Wire.Group
import RowFilter.Proofs.Wire.Percent

/-!
# Written fragments

A fragment is written in few characters, and reading undoes its percent encoding: what is left is
the key and the text that `Operation.plain?` gives for the operation.
-/

namespace RowFilter

open RowFilter.Calendar RowFilter.Wire

namespace Wire

/-! ## Wire forms in safe characters -/

def isWireChar (c : Char) : Bool :=
  Percent.isUnreserved c || c = '%' || c = '(' || c = ')' || c = ',' || c = '*'

structure Spelled (wire text : List Char) : Prop where
  spells : Percent.Spells wire text
  safe : ∀ c ∈ wire, isWireChar c = true
  escapes : Percent.Escapes wire

namespace Spelled

variable {w v t u : List Char} {c : Char}

theorem append (hw : Spelled w t) (hv : Spelled v u) : Spelled (w ++ v) (t ++ u) := by
  refine ⟨hw.spells.append hv.spells, fun c hc => ?_, hw.escapes.append hv.escapes⟩
  rcases List.mem_append.1 hc with hc | hc
  · exact hw.safe c hc
  · exact hv.safe c hc

theorem plain (hw : (w.all fun c => isWireChar c && c ≠ '%') = true) : Spelled w w := by
  have hall : ∀ c ∈ w, isWireChar c = true ∧ c ≠ '%' := by simpa using hw
  have hsign : '%' ∉ w := fun h => (hall _ h).2 rfl
  exact ⟨.plain hsign, fun c hc => (hall c hc).1, .plain hsign⟩

theorem cons (hc : (isWireChar c && c ≠ '%') = true) (hw : Spelled w t) :
    Spelled (c :: w) (c :: t) := by
  rw [Bool.and_eq_true, decide_eq_true_eq] at hc
  refine ⟨.cons hc.2 hw.spells, fun d hd => ?_, .cons hc.2 hw.escapes⟩
  rcases List.mem_cons.1 hd with rfl | hd
  · exact hc.1
  · exact hw.safe d hd

theorem encode (s : List Char) : Spelled (Percent.encode s) s := by
  refine ⟨.encode s, fun c hc => ?_, .encode s⟩
  rcases Percent.mem_encode hc with h | rfl
  · simp [isWireChar, h]
  · rfl

theorem encodeValue (place : Quoted.Place) (raw : String) :
    Spelled (encodeValue place raw) (Quoted.encode place raw.toList) := encode _

theorem word (c : Comparison) : Spelled c.word c.word := by
  cases c <;> exact plain rfl

theorem leg (column : String) (c : Comparison) (raw : String) :
    Spelled (leg column c raw) (legText column.toList c raw.toList) :=
  ((encode _).append (cons rfl (word c))).append (cons rfl (encodeValue .nested raw))

theorem comparand (c : Comparison) (raw : String) :
    Spelled (comparandText c raw) (comparand c raw.toList) := by
  have hstar : Spelled ['*'] ['*'] := plain rfl
  cases c with
  | contains => exact (cons rfl (encode _)).append hstar
  | startsWith => exact (encode _).append hstar
  | endsWith => exact cons rfl (encode _)
  | _ => exact encodeValue .alone raw

theorem intercalate (vs : List String) :
    Spelled ([','].intercalate (vs.map (Wire.encodeValue .nested)))
      ([','].intercalate (vs.map fun v => Quoted.encode .nested v.toList)) := by
  induction vs with
  | nil => exact plain rfl
  | cons v vs ih =>
      cases vs with
      | nil =>
          simp only [List.map_cons, List.map_nil, List.intercalate_singleton]
          exact encodeValue .nested v
      | cons v' vs =>
          simp only [List.map_cons, List.intercalate_cons_cons] at ih ⊢
          exact ((encodeValue .nested v).append (plain rfl)).append ih

end Spelled

/-! ## Fragments -/

theorem encode_eq_nil_iff {s : List Char} : Percent.encode s = [] ↔ s = [] := by
  constructor
  · intro h
    have hdecode := (Spelled.encode s).spells.decode_eq
    rw [h] at hdecode
    exact hdecode.symm
  · rintro rfl
    rfl

theorem splitFragment?_append {key value : List Char} (heq : '=' ∉ key) :
    splitFragment? (key ++ '=' :: value) =
      if key = [] then none else some (Percent.decode key, Percent.decode value) := by
  simp only [splitFragment?, cutAt_append value heq, Option.bind_eq_bind, Option.bind_some]

theorem splitFragment?_spelled (key : List Char) {value text : List Char}
    (hvalue : Spelled value text) :
    splitFragment? (Percent.encode key ++ '=' :: value) =
      if key = [] then none else some (key, text) := by
  have hk := Spelled.encode key
  have heq : '=' ∉ Percent.encode key := fun h => absurd (hk.safe _ h) (by decide)
  rw [splitFragment?_append heq, hk.spells.decode_eq, hvalue.spells.decode_eq]
  simp only [encode_eq_nil_iff]

theorem encode_groupKey : Percent.encode groupKey = groupKey := by
  decide

theorem group_spelled (column : String) (c d : Comparison) (low high : String) :
    ∃ value, (group (leg column c low) (leg column d high)).toList =
        Percent.encode groupKey ++ '=' :: value ∧
      Spelled value (groupText (legText column.toList c low.toList)
        (legText column.toList d high.toList)) := by
  have hlegs : Spelled (leg column c low ++ ',' :: leg column d high)
      (legText column.toList c low.toList ++ ',' :: legText column.toList d high.toList) :=
    .append (.leg ..) (.cons rfl (.leg ..))
  have hclose : Spelled [')'] [')'] := .plain rfl
  refine ⟨_, ?_, .append (.cons rfl hlegs) hclose⟩
  rw [encode_groupKey, group, String.toList_ofList]
  rfl

end Wire

/-! ## Plain fragments -/

def Operation.plain? (column : List Char) : Operation → Option (List Char × List Char)
  | .compare c o => some (column, c.word ++ '.' :: comparand c o.raw.toList)
  | .between l u =>
    some (groupKey, groupText (legText column .greaterOrEqual l.raw.toList)
      (legText column .lesserOrEqual u.raw.toList))
  | .inDate d =>
    (dayBounds? d.raw).map fun (first, last) =>
      (groupKey, groupText (legText column .greaterOrEqual first.toList)
        (legText column .lesserThan last.toList))
  | .check c | .checkOver c _ => some (column, c.text)
  | .truth value => some (column, truthText value)
  | .member m s =>
    some (column, m.word ++ '.' ::
      ('(' :: [','].intercalate (s.selected.map fun v => Quoted.encode .nested v.toList) ++ [')']))

theorem Operation.plain?_inDate {d : Operand} {first last : String}
    (h : dayBounds? d.raw = some (first, last)) (column : List Char) :
    (Operation.inDate d).plain? column = some (groupKey,
      groupText (legText column .greaterOrEqual first.toList)
        (legText column .lesserThan last.toList)) := by
  rw [plain?, h, Option.map_some]

/-- The fragment of a filter spells the plain key and text of its operation. -/
theorem Filter.write_spelled {f : Filter} {w : String} (h : f.write = .ok w) :
    ∃ key value text, f.operation.plain? f.column.toList = some (key, text) ∧
      w.toList = Percent.encode key ++ '=' :: value ∧ Spelled value text := by
  obtain ⟨column, op⟩ := f
  have hclose : Spelled [')'] [')'] := .plain rfl
  cases op with
  | compare c o =>
      obtain rfl := Except.ok.inj h
      exact ⟨_, _, _, rfl, String.toList_ofList .., .append (.word c) (.cons rfl (.comparand c _))⟩
  | between l u =>
      obtain rfl := Except.ok.inj h
      obtain ⟨value, hw, hvalue⟩ := group_spelled column .greaterOrEqual .lesserOrEqual l.raw u.raw
      exact ⟨_, value, _, rfl, hw, hvalue⟩
  | inDate d =>
      cases hbounds : dayBounds? d.raw with
      | none => simp [write, hbounds] at h
      | some bounds =>
          simp only [write, hbounds] at h
          obtain rfl := Except.ok.inj h
          obtain ⟨value, hw, hvalue⟩ := group_spelled column .greaterOrEqual .lesserThan bounds.1 bounds.2
          exact ⟨_, value, _, Operation.plain?_inDate hbounds _, hw, hvalue⟩
  | check c | checkOver c _ =>
      obtain rfl := Except.ok.inj h
      refine ⟨_, _, _, rfl, String.toList_ofList .., ?_⟩
      cases c <;> exact .plain rfl
  | truth value =>
      obtain rfl := Except.ok.inj h
      refine ⟨_, _, _, rfl, String.toList_ofList .., ?_⟩
      cases value <;> exact .plain rfl
  | member m s =>
      obtain rfl := Except.ok.inj h
      refine ⟨_, _, _, rfl, String.toList_ofList .., ?_⟩
      have hword : Spelled m.word m.word := by
        cases m <;> exact .plain rfl
      exact .append hword (.cons rfl
        (.append (.cons rfl (.intercalate s.selected)) hclose))

theorem Filter.exists_write {f : Filter} {key text : List Char}
    (h : f.operation.plain? f.column.toList = some (key, text)) : ∃ w, f.write = .ok w := by
  obtain ⟨column, op⟩ := f
  cases op with
  | inDate d =>
      obtain ⟨bounds, hbounds, -⟩ := Option.map_eq_some_iff.1 h
      simp only [write, hbounds]
      exact ⟨_, rfl⟩
  | _ => exact ⟨_, rfl⟩

theorem Operation.key_of_plain? {op : Operation} {column key text : List Char}
    (h : op.plain? column = some (key, text)) : key = column ∨ key = groupKey := by
  cases op with
  | between l u => exact .inr (Prod.mk.inj (Option.some.inj h)).1.symm
  | inDate d =>
      obtain ⟨bounds, -, h⟩ := Option.map_eq_some_iff.1 h
      exact .inr (Prod.mk.inj h).1.symm
  | _ => exact .inl (Prod.mk.inj (Option.some.inj h)).1.symm

theorem Filter.splitFragment?_write {f : Filter} {w : String} (h : f.write = .ok w)
    (hcolumn : f.column ≠ "") :
    splitFragment? w.toList = f.operation.plain? f.column.toList := by
  obtain ⟨key, value, text, hplain, hw, hvalue⟩ := write_spelled h
  have hkey : key ≠ [] := by
    rcases Operation.key_of_plain? hplain with rfl | rfl
    · exact fun h => hcolumn (String.toList_inj.1 h)
    · decide
  rw [hplain, hw, splitFragment?_spelled key hvalue, if_neg hkey]

/-- Where a written fragment can be split at all, the key is encoded in front of an equals sign. -/
theorem Filter.plain?_of_splitFragment? {f : Filter} {w : String} (h : f.write = .ok w)
    {key text : List Char} (hsplit : splitFragment? w.toList = some (key, text)) :
    f.operation.plain? f.column.toList = some (key, text) ∧
      ∃ value, w.toList = Percent.encode key ++ '=' :: value := by
  obtain ⟨key', value, text', hplain, hw, hvalue⟩ := write_spelled h
  rw [hw, splitFragment?_spelled key' hvalue] at hsplit
  split at hsplit
  · cases hsplit
  · obtain ⟨rfl, rfl⟩ := Prod.mk.inj (Option.some.inj hsplit)
    exact ⟨hplain, value, hw⟩

end RowFilter
