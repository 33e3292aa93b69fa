import RowFilter.Proofs.Calendar.DateText
import RowFilter.Proofs.Operand.Order
import RowFilter.Proofs.Wire.TopLevel
import RowFilter.Wire.Codec

/-!
# Groups read and written

A group that is read stands for a range with its bounds in order or for a day that has a next one.
The group that is written for such an operation is read as this operation.
-/

namespace RowFilter.Wire

open RowFilter.Calendar

/-! ## Cutting at a character -/

theorem forall_ne_of_not_mem {sep : Char} {front : List Char} (h : sep ∉ front) :
    ∀ c ∈ front, decide (c ≠ sep) = true := by
  intro c hc
  rw [decide_eq_true_eq]
  rintro rfl
  exact h hc

theorem takeWhile_append_cons {sep : Char} {front rest : List Char} (h : sep ∉ front) :
    (front ++ sep :: rest).takeWhile (· ≠ sep) = front := by
  rw [List.takeWhile_append_of_pos (forall_ne_of_not_mem h), List.takeWhile_cons_of_neg (by simp),
    List.append_nil]

theorem eq_of_append_cons {sep : Char} {front front' rest rest' : List Char} (h : sep ∉ front)
    (h' : sep ∉ front') (heq : front ++ sep :: rest = front' ++ sep :: rest') :
    front = front' ∧ rest = rest' := by
  have hfront : front = front' :=
    calc front = (front ++ sep :: rest).takeWhile (· ≠ sep) := (takeWhile_append_cons h).symm
      _ = front' := by rw [heq, takeWhile_append_cons h']
  subst hfront
  exact ⟨rfl, (List.cons.inj (List.append_cancel_left heq)).2⟩

theorem cutAt_append {sep : Char} {front : List Char} (rest : List Char) (h : sep ∉ front) :
    cutAt sep (front ++ sep :: rest) = (front, some rest) := by
  have hdrop : (front ++ sep :: rest).dropWhile (· ≠ sep) = sep :: rest := by
    rw [List.dropWhile_append_of_pos (forall_ne_of_not_mem h),
      List.dropWhile_cons_of_neg (by simp)]
  simp only [cutAt, hdrop, takeWhile_append_cons h]

theorem eq_of_cutAt {sep : Char} {s front rest : List Char} (h : cutAt sep s = (front, some rest)) :
    s = front ++ sep :: rest ∧ sep ∉ front := by
  unfold cutAt at h
  split at h
  · cases h
  · rename_i c rest' hdrop
    obtain ⟨rfl, hrest⟩ := Prod.mk.inj h
    cases hrest
    have hc : c = sep := by
      have hhead := List.head?_dropWhile_not (fun d => decide (d ≠ sep)) s
      rw [hdrop] at hhead
      simpa using hhead
    subst hc
    refine ⟨?_, fun hmem => ?_⟩
    · rw [← hdrop, List.takeWhile_append_dropWhile]
    · have hall := List.all_eq_true.1 (List.all_takeWhile (p := fun d => decide (d ≠ c)) (l := s))
      exact of_decide_eq_true (hall c hmem) rfl

/-! ## Legs -/

/-- One leg of a group as it is read, without percent encoding. -/
def legText (column : List Char) (c : Comparison) (raw : List Char) : List Char :=
  column ++ '.' :: c.word ++ '.' :: Quoted.encode .nested raw

def groupText (first second : List Char) : List Char := '(' :: (first ++ ',' :: second) ++ [')']

/-- A name of a column that stays whole when a group is cut at commas and a leg at points. -/
structure IsLegName (column : List Char) : Prop where
  ne_nil : column ≠ []
  no_point : '.' ∉ column
  part : TopLevel.IsPart [','] column

theorem IsLegName.of_plain {column : List Char} (hne : column ≠ []) (hpoint : '.' ∉ column)
    (hplain : ∀ c ∈ column, c ≠ '"' ∧ c ≠ '(') (hcomma : ',' ∉ column) : IsLegName column := by
  refine ⟨hne, hpoint, TopLevel.isPart_of_plain fun c hc => ?_⟩
  obtain ⟨hquote, hparen⟩ := hplain c hc
  refine ⟨hquote, hparen, ?_⟩
  rintro ⟨⟩
  exact hcomma hc

theorem plain_word (c : Comparison) : ∀ d ∈ c.word, d ≠ '"' ∧ d ≠ '(' ∧ d ≠ ',' ∧ d ≠ '.' := by
  have hall : (c.word.all fun d => d ≠ '"' && d ≠ '(' && d ≠ ',' && d ≠ '.') = true := by
    cases c <;> rfl
  simpa [and_assoc] using hall

namespace Leg

theorem ofText?_eq_some {text : List Char} {l : Leg} (h : ofText? text = some l) :
    l.column ≠ [] ∧ '.' ∉ l.column ∧ ∃ rest, text = l.column ++ '.' :: rest := by
  simp only [ofText?, Option.bind_eq_bind, Option.bind_eq_some_iff] at h
  obtain ⟨rest, hrest, h⟩ := h
  split at h
  · cases h
  · rename_i hne
    obtain ⟨raw, -, h⟩ := Option.bind_eq_some_iff.1 h
    cases h
    obtain ⟨htext, hpoint⟩ := eq_of_cutAt (Prod.ext rfl hrest)
    exact ⟨hne, hpoint, rest, htext⟩

theorem map_ofText?_of_mapM {texts : List (List Char)} {legs : List Leg}
    (h : texts.mapM ofText? = some legs) : texts.map ofText? = legs.map some := by
  induction texts generalizing legs with
  | nil =>
      cases h
      rfl
  | cons text texts ih =>
      simp only [List.mapM_cons, Option.bind_eq_bind, Option.bind_eq_some_iff] at h
      obtain ⟨first, hfirst, rest, hrest, h⟩ := h
      cases h
      rw [List.map_cons, List.map_cons, hfirst, ih hrest]

/-- A comma in the name of a column would have cut the leg. -/
theorem isLegName_of_ofGroup? {text : List Char} {legs : List Leg} (h : ofGroup? text = some legs)
    {l : Leg} (hl : l ∈ legs) (hplain : ∀ c ∈ l.column, c ≠ '"' ∧ c ≠ '(') :
    IsLegName l.column := by
  simp only [ofGroup?, Option.bind_eq_bind, Option.bind_eq_some_iff] at h
  obtain ⟨inner, -, h⟩ := h
  have hmem := List.mem_map_of_mem (f := some) hl
  rw [← map_ofText?_of_mapM h] at hmem
  obtain ⟨t, ht, htl⟩ := List.mem_map.1 hmem
  obtain ⟨hne, hpoint, rest, rfl⟩ := ofText?_eq_some htl
  exact .of_plain hne hpoint hplain
    (TopLevel.not_mem_of_splitFrom rfl hplain (TopLevel.splitFrom_of_mem_split ht))

variable {column : List Char}

theorem ofText?_legText (hcolumn : IsLegName column) (c : Comparison) (raw : List Char) :
    ofText? (legText column c raw) = some ⟨column, c.word, raw⟩ := by
  have hword : '.' ∉ c.word := fun h => (plain_word c _ h).2.2.2 rfl
  have hfirst : cutAt '.' (legText column c raw) =
      (column, some (c.word ++ '.' :: Quoted.encode .nested raw)) := by
    rw [legText, List.append_assoc, List.cons_append]
    exact cutAt_append _ hcolumn.no_point
  have hsecond := cutAt_append (Quoted.encode .nested raw) hword
  simp only [ofText?, hfirst, hsecond, Option.bind_eq_bind, Option.bind_some, if_neg hcolumn.ne_nil,
    Quoted.decode_encode]

theorem isPart_legText (hcolumn : IsLegName column) (c : Comparison) (raw : List Char) :
    TopLevel.IsPart [','] (legText column c raw) := by
  have hplain : ∀ d ∈ '.' :: c.word ++ ['.'], d ≠ '"' ∧ d ≠ '(' ∧ [d] ≠ [','] := by
    intro d hd
    rcases List.mem_append.1 hd with hd | hd
    · rcases List.mem_cons.1 hd with rfl | hd
      · decide
      · obtain ⟨hq, hp, hs, -⟩ := plain_word c d hd
        exact ⟨hq, hp, fun h => hs (List.cons.inj h).1⟩
    · cases List.mem_singleton.1 hd
      decide
  have h := (hcolumn.part.append (TopLevel.isPart_of_plain hplain)).append (TopLevel.isPart_encode raw)
  simpa [legText] using h

theorem ofGroup?_groupText (hcolumn : IsLegName column) (c d : Comparison) (low high : List Char) :
    ofGroup? (groupText (legText column c low) (legText column d high)) =
      some [⟨column, c.word, low⟩, ⟨column, d.word, high⟩] := by
  have hne : ∀ (c : Comparison) (raw : List Char), legText column c raw ≠ [] := by
    intro c raw
    simp [legText]
  have hsplit : TopLevel.split [','] (legText column c low ++ ',' :: legText column d high) =
      [legText column c low, legText column d high] := by
    have hparts : ∀ t ∈ [legText column c low, legText column d high],
        t ≠ [] ∧ TopLevel.IsPart [','] t := by
      simp [hne, isPart_legText hcolumn]
    simpa [List.intercalate_cons_cons] using TopLevel.split_intercalate rfl hparts
  rw [ofGroup?, groupText, TopLevel.unwrapParens?_eq_some_iff.2 rfl]
  simp only [Option.bind_eq_bind, Option.bind_some, hsplit, List.mapM_cons, List.mapM_nil,
    ofText?_legText hcolumn, pure]

/-! ### Names that were read -/

theorem isReserved_of_needsQuotes {raw : List Char} (h : Quoted.needsQuotes .nested raw = false) :
    ∀ d ∈ Quoted.encode .nested raw, Quoted.isReserved d = false := by
  have henc : Quoted.encode .nested raw = raw := if_neg (Bool.eq_false_iff.1 h)
  simp only [Quoted.needsQuotes, Bool.or_eq_false_iff, List.any_eq_false, Bool.not_eq_true] at h
  rw [henc]
  exact h.2

theorem exists_legText (column : List Char) (c : Comparison) {raw : List Char}
    (h : Quoted.needsQuotes .nested raw = false) :
    ∃ tail, legText column c raw = column ++ '.' :: tail ∧
      ∀ d ∈ '.' :: tail, Quoted.isReserved d = false := by
  refine ⟨c.word ++ '.' :: Quoted.encode .nested raw, by simp [legText], fun d hd => ?_⟩
  have hword : (('.' :: c.word ++ ['.']).all fun d => !Quoted.isReserved d) = true := by
    cases c <;> rfl
  have hmem : d ∈ ('.' :: c.word ++ ['.']) ++ Quoted.encode .nested raw := by simpa using hd
  rcases List.mem_append.1 hmem with hd | hd
  · simpa using List.all_eq_true.1 hword d hd
  · exact isReserved_of_needsQuotes h d hd

theorem exists_parts_of_ofGroup? {inner : List Char} {legs : List Leg}
    (h : ofGroup? ('(' :: inner ++ [')']) = some legs) (hlength : legs.length = 2)
    (hall : ∀ l ∈ legs, l.column = column) :
    column ≠ [] ∧ '.' ∉ column ∧ ∃ rest rest',
      TopLevel.splitFrom [','] .start inner = [column ++ '.' :: rest, column ++ '.' :: rest'] := by
  obtain ⟨l, l', rfl⟩ : ∃ l l', legs = [l, l'] := by
    match legs, hlength with
    | [l, l'], _ => exact ⟨l, l', rfl⟩
  simp only [ofGroup?, TopLevel.unwrapParens?_eq_some_iff.2 rfl, Option.bind_eq_bind,
    Option.bind_some] at h
  have hmap := map_ofText?_of_mapM h
  obtain ⟨p, ps, hsplit, hp, hps⟩ := List.map_eq_cons_iff.1 hmap
  obtain ⟨p', ps', rfl, hp', hnil⟩ := List.map_eq_cons_iff.1 hps
  obtain rfl := List.map_eq_nil_iff.1 hnil
  obtain ⟨hne, hpoint, rest, rfl⟩ := ofText?_eq_some hp
  obtain ⟨-, -, rest', rfl⟩ := ofText?_eq_some hp'
  rw [hall l (List.mem_cons_self ..)] at hne hpoint hsplit
  rw [hall l' (List.mem_cons_of_mem _ (List.mem_cons_self ..))] at hsplit
  refine ⟨hne, hpoint, rest, rest', ?_⟩
  unfold TopLevel.split at hsplit
  split at hsplit
  · cases hsplit
  · exact hsplit

/-- Where the values of both legs need no quotes, a group that is read as two legs on the column has
been cut between the legs, so the name leads the scan back to its start. -/
theorem isLegName_of_ofGroup?_groupText {c d : Comparison} {low high : List Char} {legs : List Leg}
    (hlow : Quoted.needsQuotes .nested low = false)
    (hhigh : Quoted.needsQuotes .nested high = false)
    (h : ofGroup? (groupText (legText column c low) (legText column d high)) = some legs)
    (hlength : legs.length = 2) (hall : ∀ l ∈ legs, l.column = column) : IsLegName column := by
  obtain ⟨tail, hfirst, htail⟩ := exists_legText column c hlow
  obtain ⟨tail', hsecond, htail'⟩ := exists_legText column d hhigh
  obtain ⟨hne, hpoint, rest, rest', hsplit⟩ := exists_parts_of_ofGroup? h hlength hall
  have hjoin := TopLevel.intercalate_splitFrom [','] .start
    (legText column c low ++ ',' :: legText column d high)
  rw [hsplit, hfirst, hsecond] at hjoin
  have hcut : rest ++ ',' :: (column ++ '.' :: rest') = tail ++ ',' :: (column ++ '.' :: tail') := by
    simpa [List.intercalate_cons_cons] using hjoin
  have hcomma : ∀ t : List Char, (∀ d ∈ '.' :: t, Quoted.isReserved d = false) → ',' ∉ t :=
    fun t ht hmem => absurd (ht ',' (List.mem_cons_of_mem _ hmem)) (by decide)
  -- both sides have as many commas, so the first part ends before the comma between the legs
  have hrest : ',' ∉ rest := by
    have hcount := congrArg (List.count ',') hcut
    simp only [List.count_append, List.count_cons, List.count_eq_zero.2 (hcomma _ htail),
      List.count_eq_zero.2 (hcomma _ htail')] at hcount
    rw [← List.count_eq_zero]
    omega
  obtain ⟨rfl, -⟩ := eq_of_append_cons hrest (hcomma _ htail) hcut
  obtain ⟨s, hname, hrun⟩ := (TopLevel.passes_of_splitFrom hsplit).exists_of_append
  obtain rfl := TopLevel.eq_start_of_passes htail hrun
  exact ⟨hne, hpoint, hname⟩

end Leg

/-! ## Ranges -/

variable {column : Column}

theorem range?_eq {k : OperandKind} (hk : column.kind.operandKind? = some k) (a b : List Char) :
    range? column a b =
      if (Operand.mk k (String.ofList b)).key.lt (Operand.mk k (String.ofList a)).key then
        some (.between ⟨k, String.ofList b⟩ ⟨k, String.ofList a⟩)
      else some (.between ⟨k, String.ofList a⟩ ⟨k, String.ofList b⟩) := by
  simp only [range?, Operand.ofColumn?, hk, Option.map_some, Option.bind_eq_bind, Option.bind_some]

theorem range?_eq_some {a b : List Char} {op : Operation} (h : range? column a b = some op) :
    ∃ l u, op = .between l u ∧ column.kind.operandKind? = some l.kind ∧ l.kind = u.kind ∧
      u.key.lt l.key = false := by
  cases hk : column.kind.operandKind? with
  | none => simp [range?, Operand.ofColumn?, hk] at h
  | some k =>
      rw [range?_eq hk] at h
      split at h
      · rename_i hlt
        cases h
        exact ⟨_, _, rfl, rfl, rfl, Key.lt_asymm hlt⟩
      · rename_i hlt
        cases h
        exact ⟨_, _, rfl, rfl, rfl, Bool.eq_false_iff.2 hlt⟩

/-! ## Days -/

theorem dayStart?_midnightText (d : Date) : dayStart? (midnightText d).toList = some d := by
  have hlength := d.length_text
  have hline : dropLineEnd (d.text ++ "T00:00".toList) = d.text ++ "T00:00".toList := by
    rw [dropLineEnd, if_neg]
    simp
  have hdrop : (d.text ++ "T00:00".toList).drop 10 = "T00:00".toList := by
    rw [← hlength, List.drop_left]
  have htake : (d.text ++ "T00:00".toList).take 10 = d.text := by
    rw [← hlength, List.take_left]
  simp only [midnightText, String.toList_ofList, dayStart?, hline, hdrop, htake]
  exact Date.ofDashed?_eq_some_iff.2 rfl

theorem wholeDay?_midnightText {day next : Date} (h : day.next? = some next) :
    wholeDay? (midnightText day).toList (midnightText next).toList =
      some (.inDate ⟨.date, String.ofList day.text⟩) := by
  simp only [wholeDay?, dayStart?_midnightText, Option.bind_eq_bind, Option.bind_some, h, if_true]

theorem wholeDay?_eq_some {start finish : List Char} {op : Operation}
    (h : wholeDay? start finish = some op) :
    ∃ day next : Date, day.next? = some next ∧ op = .inDate ⟨.date, String.ofList day.text⟩ := by
  simp only [wholeDay?, Option.bind_eq_bind, Option.bind_eq_some_iff] at h
  obtain ⟨day, -, next, -, h⟩ := h
  split at h
  · rename_i hnext
    cases h
    exact ⟨day, next, hnext, rfl⟩
  · cases h

theorem dayBounds?_text {day next : Date} (h : day.next? = some next) :
    dayBounds? (String.ofList day.text) = some (midnightText day, midnightText next) := by
  simp only [dayBounds?, String.toList_ofList, day.trim_text, day.ofText?_text,
    Option.bind_eq_bind, Option.bind_some, h]

theorem dayBounds?_eq_none_iff {raw : String} :
    dayBounds? raw = none ↔ Date.ofText? (Text.trim raw.toList) = none ∨
      Date.ofText? (Text.trim raw.toList) = some .last := by
  cases hday : Date.ofText? (Text.trim raw.toList) with
  | none => simp [dayBounds?, hday]
  | some day =>
      have hbounds : dayBounds? raw =
          day.next?.map fun next => (midnightText day, midnightText next) := by
        simp only [dayBounds?, hday, Option.bind_eq_bind, Option.bind_some]
        exact Option.map_eq_bind.symm
      simp [hbounds, Date.next?_eq_none_iff]

theorem dayBounds?_eq_some {raw first last : String} (h : dayBounds? raw = some (first, last)) :
    ∃ day next : Date, day.next? = some next ∧ first = midnightText day ∧
      last = midnightText next := by
  simp only [dayBounds?, Option.bind_eq_bind, Option.bind_eq_some_iff] at h
  obtain ⟨day, -, next, hnext, h⟩ := h
  cases h
  exact ⟨day, next, hnext, rfl, rfl⟩

/-! ## Groups -/

theorem Leg.bound?_pair (first second : Leg) (c : Comparison) :
    bound? [first, second] c =
      if second.word = c.word then some second.raw
      else if first.word = c.word then some first.raw else none := by
  unfold bound?
  by_cases hs : second.word = c.word
  · simp [hs]
  · by_cases hf : first.word = c.word <;> simp [hs, hf]

/-- Legs with different words count the same in either order. -/
theorem readGroup?_swap {l l' : Leg} (h : l.word ≠ l'.word) :
    readGroup? column [l, l'] = readGroup? column [l', l] := by
  have hbound : ∀ c, Leg.bound? [l, l'] c = Leg.bound? [l', l] c := by
    intro c
    rw [Leg.bound?_pair, Leg.bound?_pair]
    by_cases hc : l.word = c.word
    · have hc' : l'.word ≠ c.word := fun hc' => h (hc.trans hc'.symm)
      rw [if_pos hc, if_neg hc', if_pos hc]
    · rw [if_neg hc, if_neg hc]
  have hcolumn : ([l, l'].all fun leg => decide (leg.column = column.name.toList)) =
      [l', l].all fun leg => decide (leg.column = column.name.toList) := by
    simp only [List.all_cons, List.all_nil, Bool.and_true]
    exact Bool.and_comm ..
  simp only [readGroup?, hbound, hcolumn, List.length_cons, List.length_nil]

theorem readGroup?_range (low high : List Char) :
    readGroup? column [⟨column.name.toList, Comparison.greaterOrEqual.word, low⟩,
      ⟨column.name.toList, Comparison.lesserOrEqual.word, high⟩] = range? column low high := by
  have hne : Comparison.lesserOrEqual.word ≠ Comparison.greaterOrEqual.word := by decide
  simp [readGroup?, Leg.bound?_pair, hne]

theorem readGroup?_day (htime : column.kind = .time) (low high : List Char) :
    readGroup? column [⟨column.name.toList, Comparison.greaterOrEqual.word, low⟩,
      ⟨column.name.toList, Comparison.lesserThan.word, high⟩] = wholeDay? low high := by
  have hlow : Comparison.lesserThan.word ≠ Comparison.greaterOrEqual.word := by decide
  have hhigh : Comparison.lesserThan.word ≠ Comparison.lesserOrEqual.word := by decide
  have hcross : Comparison.greaterOrEqual.word ≠ Comparison.lesserOrEqual.word := by decide
  simp [readGroup?, Leg.bound?_pair, hlow, hhigh, hcross, htime]

theorem legs_of_readGroup? {legs : List Leg} {op : Operation}
    (h : readGroup? column legs = some op) :
    legs.length = 2 ∧ ∀ l ∈ legs, l.column = column.name.toList := by
  unfold readGroup? at h
  split at h
  · rename_i hlegs
    rw [Bool.and_eq_true, decide_eq_true_eq, List.all_eq_true] at hlegs
    exact ⟨hlegs.1, fun l hl => of_decide_eq_true (hlegs.2 l hl)⟩
  · cases h

theorem readGroup?_eq_some {legs : List Leg} {op : Operation}
    (h : readGroup? column legs = some op) :
    (∃ first rest, legs = first :: rest ∧ first.column = column.name.toList) ∧
      ((∃ low high, range? column low high = some op) ∨
        column.kind = .time ∧ ∃ low high, wholeDay? low high = some op) := by
  obtain ⟨hlength, hcolumn⟩ := legs_of_readGroup? h
  refine ⟨?_, ?_⟩
  · cases legs with
    | nil => cases hlength
    | cons first rest => exact ⟨first, rest, rfl, hcolumn first (List.mem_cons_self ..)⟩
  · unfold readGroup? at h
    split at h
    · split at h
      · exact .inl ⟨_, _, h⟩
      · split at h
        · rename_i htime
          exact .inr ⟨htime, _, _, h⟩
        · cases h
      · cases h
    · cases h

end RowFilter.Wire
