import RowFilter.Proofs.Wire.Group

/-!
# The grammar of conditions

`Means` says which texts are conditions on a column and for which operations they stand, without
trying forms in an order. The first form that fits reads exactly this relation: the word before the
first point leaves at most three forms to choose from, and among these the order only matters where
an earlier form claims the value.
-/

namespace RowFilter

/-- The comparisons whose value is a text between wildcards. -/
def Comparison.isPattern : Comparison → Bool
  | .contains | .startsWith | .endsWith => true
  | _ => false

namespace Wire

/-! ## The value of a comparison -/

/-- The value of a comparison that stands for an operand text. -/
def comparand : Comparison → List Char → List Char
  | .contains, raw => '*' :: raw ++ ['*']
  | .startsWith, raw => raw ++ ['*']
  | .endsWith, raw => '*' :: raw
  | _, raw => Quoted.encode .alone raw

def operandText? (c : Comparison) (v : List Char) : Option (List Char) :=
  if c.isPattern then patternText? c v else some (Quoted.decode v)

theorem value?_eq_some_iff {word text v : List Char} :
    value? word text = some v ↔ text = word ++ '.' :: v := by
  rw [value?, after?_eq_some_iff, List.append_assoc, List.singleton_append]

theorem comparand?_eq (c : Comparison) (text : List Char) :
    comparand? c text = (value? c.word text).bind (operandText? c) := by
  cases c with
  | contains | startsWith | endsWith => rfl
  | _ => exact Option.map_eq_bind ..

theorem eq_comparand_of_patternText? {c : Comparison} {v raw : List Char}
    (h : patternText? c v = some raw) : v = comparand c raw := by
  unfold patternText? at h
  split at h
  · split at h
    · rename_i hlast
      obtain ⟨init, rfl⟩ := List.getLast?_eq_some_iff.1 hlast
      rw [List.dropLast_concat] at h
      cases h
      rfl
    · cases h
  · split at h
    · rename_i hlast
      obtain ⟨init, rfl⟩ := List.getLast?_eq_some_iff.1 hlast
      rw [List.dropLast_concat] at h
      cases h
      rfl
    · cases h
  · cases h
    rfl
  · cases h

theorem operandText?_comparand (c : Comparison) (raw : List Char) :
    operandText? c (comparand c raw) = some raw := by
  cases c with
  | contains | startsWith | endsWith =>
      simp [operandText?, Comparison.isPattern, patternText?, comparand]
  | _ => exact congrArg some (Quoted.decode_encode .alone raw)

theorem comparand_of_isPattern {c : Comparison} (hc : c.isPattern = true) {v raw : List Char}
    (h : operandText? c v = some raw) : comparand c raw = v := by
  rw [operandText?, if_pos hc] at h
  exact (eq_comparand_of_patternText? h).symm

theorem operandText?_eq_none {c : Comparison} (hc : c.isPattern = true) {v : List Char}
    (h : ∀ raw, v ≠ comparand c raw) : operandText? c v = none := by
  rw [Option.eq_none_iff_forall_ne_some]
  intro raw hraw
  exact h raw (comparand_of_isPattern hc hraw).symm

/-! ## Values claimed by an earlier form -/

/-- The values that another form reads before the comparison comes to them. -/
def Claimed : Comparison → List Char → Prop
  | .startsWith, v => ∃ raw, v = comparand .contains raw
  | .endsWith, v => ∃ raw, v = comparand .startsWith raw
  | .lesserThan, v | .greaterThan, v => v = "now".toList
  | _, _ => False

/-! ## The grammar -/

/-- A text is a condition on a column and stands for an operation. -/
inductive Means (column : Column) : List Char → Operation → Prop
  | check (c : Check) : Means column c.text (.check c)
  | truth (value : Bool) : Means column (truthText value) (.truth value)
  | compare {c v raw k} : column.kind.operandKind? = some k → operandText? c v = some raw →
      ¬Claimed c v → Means column (c.word ++ '.' :: v) (.compare c ⟨k, String.ofList raw⟩)
  | member {m inner} : column.kind = .enum →
      Means column (m.word ++ '.' :: ('(' :: inner ++ [')']))
        (.member m (.ofKnown column.choices
          ((TopLevel.split [','] inner).map fun item => String.ofList (Quoted.decode item))))

/-! ## Leading words -/

def leadingWord (text : List Char) : List Char := text.takeWhile (· ≠ '.')

def memberLead : Membership → List Char
  | .oneOf => "in".toList
  | .noneOf => "not".toList

/-- The leading words of the texts that a form can read. -/
def Form.leads : Form → List (List Char)
  | .constant => ["is".toList]
  | .now => ["gt".toList, "lt".toList]
  | .compare c => [c.word]
  | .member m => [memberLead m]

theorem leadingWord_append {word rest : List Char} (h : '.' ∉ word) :
    leadingWord (word ++ '.' :: rest) = word := takeWhile_append_cons h

theorem point_not_mem_word (c : Comparison) : '.' ∉ c.word := by
  cases c <;> decide

theorem leadingWord_member (m : Membership) (rest : List Char) :
    leadingWord (m.word ++ '.' :: rest) = memberLead m := by
  cases m with
  | oneOf => exact leadingWord_append (by decide)
  | noneOf => rfl

/-! ## Texts of one form -/

section Texts

variable {column : Column} {text : List Char} {op : Operation}

theorem text_of_read?_constant (h : Form.constant.read? column text = some op) :
    (∃ value, text = truthText value) ∨ text = Check.isNull.text := by
  simp only [Form.read?] at h
  split at h
  · exact .inl ⟨true, ‹_›⟩
  split at h
  · exact .inl ⟨false, ‹_›⟩
  split at h
  · exact .inr ‹_›
  · cases h

theorem text_of_read?_now (h : Form.now.read? column text = some op) :
    text = Check.inFuture.text ∨ text = Check.inPast.text := by
  simp only [Form.read?] at h
  split at h
  · exact .inl ‹_›
  split at h
  · exact .inr ‹_›
  · cases h

theorem text_of_read?_compare {c : Comparison} (h : (Form.compare c).read? column text = some op) :
    ∃ v raw k, text = c.word ++ '.' :: v ∧ operandText? c v = some raw ∧
      column.kind.operandKind? = some k := by
  simp only [Form.read?, Option.bind_eq_bind, Option.bind_eq_some_iff, comparand?_eq,
    Operand.ofColumn?, Option.map_eq_some_iff, value?_eq_some_iff] at h
  obtain ⟨raw, ⟨v, htext, hraw⟩, o, ⟨k, hk, -⟩, -⟩ := h
  exact ⟨v, raw, k, htext, hraw, hk⟩

theorem text_of_read?_member {m : Membership} (h : (Form.member m).read? column text = some op) :
    column.kind = .enum ∧ ∃ inner, text = m.word ++ '.' :: ('(' :: inner ++ [')']) := by
  by_cases henum : column.kind = .enum
  · simp only [Form.read?, henum, if_true, Option.bind_eq_bind, Option.bind_eq_some_iff,
      value?_eq_some_iff, TopLevel.unwrapParens?_eq_some_iff] at h
    obtain ⟨v, htext, inner, rfl, -⟩ := h
    exact ⟨henum, inner, htext⟩
  · simp [Form.read?, henum] at h

theorem leadingWord_mem_leads {f : Form} (h : f.read? column text = some op) :
    leadingWord text ∈ f.leads := by
  cases f with
  | constant =>
      rcases text_of_read?_constant h with ⟨value, rfl⟩ | rfl
      · cases value <;> exact List.mem_singleton_self _
      · exact List.mem_singleton_self _
  | now =>
      rcases text_of_read?_now h with rfl | rfl
      · exact List.mem_cons_self ..
      · exact List.mem_cons_of_mem _ (List.mem_cons_self ..)
  | compare c =>
      obtain ⟨v, -, -, rfl, -⟩ := text_of_read?_compare h
      rw [leadingWord_append (point_not_mem_word c)]
      exact List.mem_singleton_self _
  | member m =>
      obtain ⟨-, inner, rfl⟩ := text_of_read?_member h
      rw [leadingWord_member]
      exact List.mem_singleton_self _

end Texts

/-- Only the forms with the leading word of a text can read it. -/
theorem readForms?_eq_filter (forms : List Form) (column : Column) (text : List Char) :
    readForms? forms column text =
      readForms? (forms.filter (leadingWord text ∈ ·.leads)) column text := by
  induction forms with
  | nil => rfl
  | cons f forms ih =>
      unfold readForms? at ih ⊢
      rw [List.findSome?_cons, List.filter_cons]
      split
      · rename_i op hop
        rw [if_pos (by simpa using leadingWord_mem_leads hop), List.findSome?_cons, hop]
      · rename_i hnone
        rw [ih]
        split
        · rw [List.findSome?_cons, hnone]
        · rfl

/-! ## Reading the grammar -/

variable {column : Column}

theorem read?_compare {k : OperandKind} (hk : column.kind.operandKind? = some k) (c : Comparison)
    (v : List Char) : (Form.compare c).read? column (c.word ++ '.' :: v) =
      (operandText? c v).map fun raw => .compare c ⟨k, String.ofList raw⟩ := by
  have hv : value? c.word (c.word ++ '.' :: v) = some v := value?_eq_some_iff.2 rfl
  simp only [Form.read?, comparand?_eq, hv, Option.bind_some, Operand.ofColumn?, hk,
    Option.map_some, Option.bind_eq_bind]
  exact Option.map_eq_bind.symm

theorem read?_now {c : Comparison} {v : List Char} (hv : v ≠ "now".toList) :
    Form.now.read? column (c.word ++ '.' :: v) = none := by
  have hne : ∀ d : Comparison, c.word ++ '.' :: v ≠ d.word ++ '.' :: "now".toList :=
    fun d h => hv (eq_of_append_cons (point_not_mem_word c) (point_not_mem_word d) h).2
  have hfuture : c.word ++ '.' :: v ≠ Check.inFuture.text := hne .greaterThan
  have hpast : c.word ++ '.' :: v ≠ Check.inPast.text := hne .lesserThan
  rw [Form.read?, if_neg hfuture, if_neg hpast]

theorem word_of_isPattern {c : Comparison} (hc : c.isPattern = true) : c.word = "ilike".toList := by
  cases c with
  | contains | startsWith | endsWith => rfl
  | _ => exact absurd hc Bool.false_ne_true

theorem read?_pattern {c d : Comparison} (hc : c.isPattern = true) (hd : d.isPattern = true)
    {v : List Char} (hv : ∀ raw, v ≠ comparand d raw) :
    (Form.compare d).read? column (c.word ++ '.' :: v) = none := by
  have hword : c.word = d.word := (word_of_isPattern hc).trans (word_of_isPattern hd).symm
  have hvalue : value? d.word (c.word ++ '.' :: v) = some v := by
    rw [hword, value?_eq_some_iff]
  simp only [Form.read?, comparand?_eq, hvalue, Option.bind_some, operandText?_eq_none hd hv,
    Option.bind_eq_bind, Option.bind_none]

theorem readForms?_cons_of_some {f : Form} {forms : List Form} {text : List Char} {op : Operation}
    (h : f.read? column text = some op) : readForms? (f :: forms) column text = some op := by
  rw [readForms?, List.findSome?_cons, h]

theorem readForms?_cons_of_none {f : Form} {forms : List Form} {text : List Char}
    (h : f.read? column text = none) :
    readForms? (f :: forms) column text = readForms? forms column text := by
  rw [readForms?, List.findSome?_cons, h, readForms?]

theorem readForms?_word (c : Comparison) (v : List Char) :
    readForms? Form.all column (c.word ++ '.' :: v) =
      readForms? (Form.all.filter (c.word ∈ ·.leads)) column (c.word ++ '.' :: v) := by
  rw [readForms?_eq_filter, leadingWord_append (point_not_mem_word c)]

theorem readForms?_check (c : Check) : readForms? Form.all column c.text = some (.check c) := by
  cases c <;> rfl

theorem readForms?_truth (value : Bool) :
    readForms? Form.all column (truthText value) = some (.truth value) := by
  cases value <;> rfl

theorem readForms?_compare {k : OperandKind} (hk : column.kind.operandKind? = some k)
    {c : Comparison} {v raw : List Char} (hraw : operandText? c v = some raw)
    (hv : ¬Claimed c v) : readForms? Form.all column (c.word ++ '.' :: v) =
      some (.compare c ⟨k, String.ofList raw⟩) := by
  have hc : (Form.compare c).read? column (c.word ++ '.' :: v) =
      some (.compare c ⟨k, String.ofList raw⟩) := by
    rw [read?_compare hk, hraw, Option.map_some]
  rw [readForms?_word]
  cases c with
  | equals | contains | lesserOrEqual | greaterOrEqual => exact readForms?_cons_of_some hc
  | startsWith =>
      have hcontains : (Form.compare .contains).read? column
          (Comparison.startsWith.word ++ '.' :: v) = none :=
        read?_pattern rfl rfl fun raw hr => hv ⟨raw, hr⟩
      exact (readForms?_cons_of_none hcontains).trans (readForms?_cons_of_some hc)
  | endsWith =>
      have hstarts : (Form.compare .startsWith).read? column
          (Comparison.endsWith.word ++ '.' :: v) = none :=
        read?_pattern rfl rfl fun raw hr => hv ⟨raw, hr⟩
      have hcontains : (Form.compare .contains).read? column
          (Comparison.endsWith.word ++ '.' :: v) = none :=
        read?_pattern rfl rfl fun raw hr => hv ⟨'*' :: raw, hr⟩
      exact (readForms?_cons_of_none hcontains).trans
        ((readForms?_cons_of_none hstarts).trans (readForms?_cons_of_some hc))
  | lesserThan | greaterThan =>
      exact (readForms?_cons_of_none (read?_now hv)).trans (readForms?_cons_of_some hc)

theorem read?_member (henum : column.kind = .enum) (m : Membership) (inner : List Char) :
    (Form.member m).read? column (m.word ++ '.' :: ('(' :: inner ++ [')'])) =
      some (.member m (.ofKnown column.choices
        ((TopLevel.split [','] inner).map fun item => String.ofList (Quoted.decode item)))) := by
  have hvalue : value? m.word (m.word ++ '.' :: ('(' :: inner ++ [')'])) =
      some ('(' :: inner ++ [')']) := value?_eq_some_iff.2 rfl
  have hinner := TopLevel.unwrapParens?_eq_some_iff.2 (rfl : '(' :: inner ++ [')'] = _)
  simp only [Form.read?, henum, if_true, hvalue, hinner, Option.bind_eq_bind, Option.bind_some]

theorem readForms?_member (henum : column.kind = .enum) (m : Membership) (inner : List Char) :
    readForms? Form.all column (m.word ++ '.' :: ('(' :: inner ++ [')'])) =
      some (.member m (.ofKnown column.choices
        ((TopLevel.split [','] inner).map fun item => String.ofList (Quoted.decode item)))) := by
  have hm := read?_member henum m inner
  rw [readForms?_eq_filter, leadingWord_member]
  cases m with
  | oneOf | noneOf => exact readForms?_cons_of_some hm

theorem readForms?_of_means {text : List Char} {op : Operation} (h : Means column text op) :
    readForms? Form.all column text = some op := by
  cases h with
  | check c => exact readForms?_check c
  | truth value => exact readForms?_truth value
  | compare hk hraw hv => exact readForms?_compare hk hraw hv
  | member henum => exact readForms?_member henum _ _

/-! ## Every text that is read is in the grammar -/

theorem means_of_operandText? {k : OperandKind} (hk : column.kind.operandKind? = some k)
    {c : Comparison} {v raw : List Char} (hraw : operandText? c v = some raw) :
    ∃ op, Means column (c.word ++ '.' :: v) op := by
  by_cases hv : Claimed c v
  · cases c with
    | equals | contains | lesserOrEqual | greaterOrEqual => exact hv.elim
    | startsWith =>
        obtain ⟨raw', rfl⟩ := hv
        exact ⟨_, .compare (c := .contains) hk (operandText?_comparand .contains raw') id⟩
    | endsWith =>
        obtain ⟨raw', rfl⟩ := hv
        by_cases hcontains : Claimed .startsWith (comparand .startsWith raw')
        · obtain ⟨raw'', hr⟩ := hcontains
          rw [hr]
          exact ⟨_, .compare (c := .contains) hk (operandText?_comparand .contains raw'') id⟩
        · exact ⟨_, .compare (c := .startsWith) hk (operandText?_comparand .startsWith raw')
            hcontains⟩
    | lesserThan =>
        cases hv
        exact ⟨_, .check .inPast⟩
    | greaterThan =>
        cases hv
        exact ⟨_, .check .inFuture⟩
  · exact ⟨_, .compare hk hraw hv⟩

theorem exists_means_of_read? {f : Form} {text : List Char} {op : Operation}
    (h : f.read? column text = some op) : ∃ op', Means column text op' := by
  cases f with
  | constant =>
      rcases text_of_read?_constant h with ⟨value, rfl⟩ | rfl
      · exact ⟨_, .truth value⟩
      · exact ⟨_, .check .isNull⟩
  | now =>
      rcases text_of_read?_now h with rfl | rfl
      · exact ⟨_, .check .inFuture⟩
      · exact ⟨_, .check .inPast⟩
  | compare c =>
      obtain ⟨v, raw, k, rfl, hraw, hk⟩ := text_of_read?_compare h
      exact means_of_operandText? hk hraw
  | member m =>
      obtain ⟨henum, inner, rfl⟩ := text_of_read?_member h
      exact ⟨_, .member henum⟩

/-- The first form that fits reads the grammar, neither more nor less. -/
theorem readForms?_eq_some_iff {text : List Char} {op : Operation} :
    readForms? Form.all column text = some op ↔ Means column text op := by
  refine ⟨fun h => ?_, readForms?_of_means⟩
  obtain ⟨f, -, hf⟩ := List.exists_of_findSome?_eq_some h
  obtain ⟨op', hop'⟩ := exists_means_of_read? hf
  rw [readForms?_of_means hop'] at h
  cases h
  exact hop'

/-! ## Texts of one operation -/

theorem means_compare_iff {text : List Char} {c : Comparison} {o : Operand} :
    Means column text (.compare c o) ↔ column.kind.operandKind? = some o.kind ∧
      ∃ v, text = c.word ++ '.' :: v ∧ operandText? c v = some o.raw.toList ∧ ¬Claimed c v := by
  constructor
  · intro h
    cases h with
    | compare hk hraw hv =>
        refine ⟨hk, _, rfl, ?_, hv⟩
        rw [String.toList_ofList, hraw]
  · rintro ⟨hk, v, rfl, hraw, hv⟩
    have h := Means.compare hk hraw hv
    rwa [String.ofList_toList] at h

theorem means_member_iff {text : List Char} {m : Membership} {s : ChoiceSet} :
    Means column text (.member m s) ↔ column.kind = .enum ∧
      ∃ inner, text = m.word ++ '.' :: ('(' :: inner ++ [')']) ∧
        s = .ofKnown column.choices
          ((TopLevel.split [','] inner).map fun item => String.ofList (Quoted.decode item)) := by
  constructor
  · intro h
    cases h with
    | member henum => exact ⟨henum, _, rfl, rfl⟩
  · rintro ⟨henum, inner, rfl, rfl⟩
    exact .member henum

theorem not_means_checkOver {text : List Char} {c : Check} {previous : Operation} :
    ¬Means column text (.checkOver c previous) := by
  rintro ⟨⟩

end Wire

end RowFilter
