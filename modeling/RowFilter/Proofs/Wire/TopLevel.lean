import RowFilter.Wire.Quoted
import RowFilter.Wire.TopLevel

/-!
# Parts of a list

A text that leads a scan from its start back to its start without a cut is one part of a list. Such
are texts without quotes and opening parentheses, and quoted values. A list of such parts is cut
into exactly these parts; conversely no part of a cut text can be cut again. A separator between two
texts is cut exactly where a scan of the first one is back at its start.
-/

namespace RowFilter.Wire.TopLevel

/-- A text leads a scan from one state to another without a cut. -/
inductive Passes (sep : List Char) : Scan → List Char → Scan → Prop
  | nil {s} : Passes sep s [] s
  | cons {s c t s'} : s.cutsAt sep c = false → Passes sep (s.step c) t s' →
      Passes sep s (c :: t) s'

variable {sep t u : List Char} {s s' s'' : Scan} {c : Char}

abbrev IsPart (sep t : List Char) : Prop := Passes sep .start t .start

namespace Passes

theorem append (h : Passes sep s t s') (h' : Passes sep s' u s'') : Passes sep s (t ++ u) s'' := by
  induction h with
  | nil => exact h'
  | cons hc _ ih => exact .cons hc (ih h')

theorem exists_of_append (h : Passes sep s (t ++ u) s'') :
    ∃ s', Passes sep s t s' ∧ Passes sep s' u s'' := by
  induction t generalizing s with
  | nil => exact ⟨s, .nil, h⟩
  | cons c t ih =>
      cases h with
      | cons hc hrest =>
          obtain ⟨s', ht, hu⟩ := ih hrest
          exact ⟨s', .cons hc ht, hu⟩

theorem splitFrom_append (h : Passes sep s t s') (rest : List Char) :
    splitFrom sep s (t ++ rest) = t.foldr consFirst (splitFrom sep s' rest) := by
  induction h with
  | nil => rfl
  | cons hc _ ih =>
      rw [List.cons_append, splitFrom, hc]
      exact congrArg (consFirst _) ih

end Passes

theorem foldr_consFirst (t part : List Char) (parts : List (List Char)) :
    t.foldr consFirst (part :: parts) = (t ++ part) :: parts := by
  induction t with
  | nil => rfl
  | cons c t ih => rw [List.foldr_cons, ih]; rfl

/-! ## Cutting between parts -/

theorem IsPart.splitFrom_eq (h : IsPart sep t) : splitFrom sep .start t = [t] := by
  have hs := h.splitFrom_append []
  rw [List.append_nil, splitFrom, foldr_consFirst, List.append_nil] at hs
  exact hs

theorem IsPart.splitFrom_cons (h : IsPart sep t) (hc : Scan.start.cutsAt sep c = true)
    (rest : List Char) :
    splitFrom sep .start (t ++ c :: rest) = t :: splitFrom sep .start rest := by
  rw [h.splitFrom_append, splitFrom, hc, if_pos rfl, foldr_consFirst, List.append_nil]

theorem splitFrom_intercalate (hc : Scan.start.cutsAt [c] c = true) {ts : List (List Char)}
    (hne : ts ≠ []) (hts : ∀ t ∈ ts, IsPart [c] t) :
    splitFrom [c] .start ([c].intercalate ts) = ts := by
  induction ts with
  | nil => exact absurd rfl hne
  | cons t ts ih =>
      have ht := hts t (List.mem_cons_self ..)
      cases ts with
      | nil => rw [List.intercalate_singleton, ht.splitFrom_eq]
      | cons u us =>
          have hus := ih (List.cons_ne_nil _ _) fun v hv => hts v (List.mem_cons_of_mem _ hv)
          rw [List.intercalate_cons_cons, List.append_assoc, List.singleton_append,
            ht.splitFrom_cons hc, hus]

theorem split_intercalate (hc : Scan.start.cutsAt [c] c = true) {ts : List (List Char)}
    (hts : ∀ t ∈ ts, t ≠ [] ∧ IsPart [c] t) : split [c] ([c].intercalate ts) = ts := by
  cases ts with
  | nil => rfl
  | cons t ts =>
      have hne : [c].intercalate (t :: ts) ≠ [] := by
        have ht := (hts t (List.mem_cons_self ..)).1
        cases ts <;> simp [List.intercalate_cons_cons, ht]
      rw [split, if_neg hne]
      exact splitFrom_intercalate hc (List.cons_ne_nil _ _) fun v hv => (hts v hv).2

/-! ## Texts that are parts -/

/-- A closing parenthesis at the top level is passed over, so it may stand in a part. -/
theorem isPart_of_plain (h : ∀ c ∈ t, c ≠ '"' ∧ c ≠ '(' ∧ [c] ≠ sep) : IsPart sep t := by
  induction t with
  | nil => exact .nil
  | cons c t ih =>
      obtain ⟨hq, hp, hs⟩ := h c (List.mem_cons_self ..)
      have hstep : Scan.start.step c = .start := by simp [Scan.step, Scan.start, hq, hp]
      refine .cons (by simp [Scan.cutsAt, hs]) ?_
      rw [hstep]
      exact ih fun d hd => h d (List.mem_cons_of_mem _ hd)

theorem cutsAt_of_mode_ne_bare (h : s.mode ≠ .bare) : s.cutsAt sep c = false := by
  have hs : s ≠ .start := by
    rintro rfl
    exact h rfl
  simp [Scan.cutsAt, hs]

theorem passes_escapeChar (c : Char) :
    Passes sep ⟨.quoted, 0⟩ (Quoted.escapeChar c) ⟨.quoted, 0⟩ := by
  unfold Quoted.escapeChar
  split
  · exact .cons (cutsAt_of_mode_ne_bare (by decide))
      (.cons (cutsAt_of_mode_ne_bare (by decide)) .nil)
  · rename_i h
    rw [Bool.or_eq_true, decide_eq_true_eq, decide_eq_true_eq, not_or] at h
    have hstep : Scan.step ⟨.quoted, 0⟩ c = ⟨.quoted, 0⟩ := by simp [Scan.step, h]
    refine .cons (cutsAt_of_mode_ne_bare (by decide)) ?_
    rw [hstep]
    exact .nil

theorem passes_escape (v : List Char) :
    Passes sep ⟨.quoted, 0⟩ (v.flatMap Quoted.escapeChar) ⟨.quoted, 0⟩ := by
  induction v with
  | nil => exact .nil
  | cons c v ih => exact (passes_escapeChar c).append ih

theorem isPart_quotes (v : List Char) :
    IsPart sep ('"' :: v.flatMap Quoted.escapeChar ++ ['"']) := by
  have hopen : Passes sep .start ['"'] ⟨.quoted, 0⟩ := .cons (by simp [Scan.cutsAt]) .nil
  have hclose : Passes sep ⟨.quoted, 0⟩ ['"'] .start :=
    .cons (cutsAt_of_mode_ne_bare (by decide)) .nil
  exact (hopen.append (passes_escape v)).append hclose

theorem isPart_encode (v : List Char) : IsPart [','] (Quoted.encode .nested v) := by
  unfold Quoted.encode
  split
  · exact isPart_quotes v
  · rename_i h
    simp only [Quoted.needsQuotes, Bool.or_eq_true, List.any_eq_true, not_or, not_exists,
      not_and] at h
    refine isPart_of_plain fun c hc => ?_
    have hr := h.2 c hc
    refine ⟨?_, ?_, ?_⟩ <;> rintro ⟨⟩ <;> exact hr rfl

theorem encode_nested_ne_nil (v : List Char) : Quoted.encode .nested v ≠ [] := by
  unfold Quoted.encode
  split
  · simp
  · rintro rfl
    rename_i h
    exact h rfl

theorem split_encode (vs : List (List Char)) :
    split [','] ([','].intercalate (vs.map (Quoted.encode .nested))) =
      vs.map (Quoted.encode .nested) := by
  refine split_intercalate rfl fun t ht => ?_
  obtain ⟨v, _, rfl⟩ := List.mem_map.1 ht
  exact ⟨encode_nested_ne_nil v, isPart_encode v⟩

theorem map_decode_split_encode (vs : List (List Char)) :
    (split [','] ([','].intercalate (vs.map (Quoted.encode .nested)))).map Quoted.decode = vs := by
  rw [split_encode, List.map_map]
  exact List.map_id'' (Quoted.decode_encode .nested) vs

/-! ## Parts of a text -/

theorem eq_of_cutsAt (h : s.cutsAt sep c = true) : s = .start ∧ [c] = sep := by
  simp only [Scan.cutsAt, Bool.and_eq_true, decide_eq_true_eq] at h
  exact ⟨h.1.1.1.1, h.2⟩

theorem intercalate_consFirst (c : Char) (parts : List (List Char)) :
    sep.intercalate (consFirst c parts) = c :: sep.intercalate parts := by
  match parts with
  | [] => rfl
  | [part] => rfl
  | part :: part' :: parts => simp [consFirst, List.intercalate_cons_cons]

/-- Nothing is lost in cutting a text. -/
theorem intercalate_splitFrom (sep : List Char) (s : Scan) (t : List Char) :
    sep.intercalate (splitFrom sep s t) = t := by
  induction t generalizing s with
  | nil => rfl
  | cons c t ih =>
      rw [splitFrom]
      split
      · rename_i hc
        obtain ⟨-, rfl⟩ := eq_of_cutsAt hc
        cases hp : splitFrom [c] s t with
        | nil => exact absurd hp (splitFrom_ne_nil _ _ _)
        | cons part parts =>
            have hrec := ih s
            rw [hp] at hrec
            rw [List.intercalate_cons_cons, hrec]
            rfl
      · rw [intercalate_consFirst, ih]

/-- A text is only cut where a scan is back at its start. -/
theorem passes_of_splitFrom {p q : List Char} {ps : List (List Char)}
    (h : splitFrom sep s t = p :: q :: ps) : Passes sep s p .start := by
  induction t generalizing s p with
  | nil => cases h
  | cons c t ih =>
      rw [splitFrom] at h
      split at h
      · rename_i hc
        obtain ⟨rfl, -⟩ := eq_of_cutsAt hc
        obtain ⟨rfl, -⟩ := List.cons.inj h
        exact .nil
      · rename_i hc
        cases hp : splitFrom sep (s.step c) t with
        | nil => exact absurd hp (splitFrom_ne_nil _ _ _)
        | cons p' ps' =>
            rw [hp] at h
            obtain ⟨rfl, rfl⟩ := List.cons.inj h
            exact .cons (Bool.eq_false_iff.2 hc) (ih hp)

theorem eq_start_of_step (hc : Quoted.isReserved c = false) (h : s.step c = .start) :
    s = .start := by
  obtain ⟨mode, depth⟩ := s
  simp only [Quoted.isReserved, Bool.or_eq_false_iff, decide_eq_false_iff_not] at hc
  cases mode <;> simp_all [Scan.step, Scan.start]

/-- Characters without a meaning in a list do not lead a scan back to its start. -/
theorem eq_start_of_passes (ht : ∀ c ∈ t, Quoted.isReserved c = false)
    (h : Passes sep s t .start) : s = .start := by
  induction t generalizing s with
  | nil =>
      cases h
      rfl
  | cons c t ih =>
      obtain ⟨hc, ht⟩ := List.forall_mem_cons.1 ht
      cases h with
      | cons _ hrest => exact eq_start_of_step hc (ih ht hrest)

/-! ## Parts cannot be cut again -/

theorem splitFrom_parts {p : List Char} {ps : List (List Char)}
    (h : splitFrom sep s t = p :: ps) :
    splitFrom sep s p = [p] ∧ ∀ q ∈ ps, splitFrom sep .start q = [q] := by
  induction t generalizing s p ps with
  | nil =>
      obtain ⟨rfl, rfl⟩ := List.cons.inj h
      exact ⟨rfl, fun q hq => absurd hq (List.not_mem_nil)⟩
  | cons c t ih =>
      rw [splitFrom] at h
      split at h
      · rename_i hc
        obtain ⟨rfl, rfl⟩ := List.cons.inj h
        refine ⟨rfl, ?_⟩
        have hs := (eq_of_cutsAt hc).1
        cases hp : splitFrom sep s t with
        | nil => exact absurd hp (splitFrom_ne_nil _ _ _)
        | cons q qs =>
            obtain ⟨hq, hqs⟩ := ih hp
            rw [hs] at hq
            intro r hr
            rcases List.mem_cons.1 hr with rfl | hr
            · exact hq
            · exact hqs r hr
      · rename_i hc
        cases hp : splitFrom sep (s.step c) t with
        | nil => exact absurd hp (splitFrom_ne_nil _ _ _)
        | cons q qs =>
            rw [hp] at h
            obtain ⟨rfl, rfl⟩ := List.cons.inj h
            obtain ⟨hq, hqs⟩ := ih hp
            refine ⟨?_, hqs⟩
            rw [splitFrom, if_neg hc, hq]
            rfl

theorem splitFrom_of_mem_split {p : List Char} (h : p ∈ split sep t) :
    splitFrom sep .start p = [p] := by
  unfold split at h
  split at h
  · exact absurd h List.not_mem_nil
  · cases hp : splitFrom sep .start t with
    | nil => exact absurd hp (splitFrom_ne_nil _ _ _)
    | cons q qs =>
        obtain ⟨hq, hqs⟩ := splitFrom_parts hp
        rw [hp] at h
        rcases List.mem_cons.1 h with rfl | h
        · exact hq
        · exact hqs p h

/-- At the front of a part no separator stands before the first quote or opening parenthesis. -/
theorem not_mem_of_splitFrom {front rest : List Char} (hc : Scan.start.cutsAt [c] c = true)
    (hfront : ∀ d ∈ front, d ≠ '"' ∧ d ≠ '(')
    (h : splitFrom [c] .start (front ++ rest) = [front ++ rest]) : c ∉ front := by
  induction front with
  | nil => exact List.not_mem_nil
  | cons d front ih =>
      obtain ⟨hq, hp⟩ := hfront d (List.mem_cons_self ..)
      rw [List.cons_append, splitFrom] at h
      split at h
      · exact absurd (List.cons.inj h).1 (by simp)
      · rename_i hd
        have hne : d ≠ c := by
          rintro rfl
          exact hd hc
        have hstep : Scan.start.step d = .start := by simp [Scan.step, Scan.start, hq, hp]
        rw [hstep] at h
        cases hs : splitFrom [c] .start (front ++ rest) with
        | nil => exact absurd hs (splitFrom_ne_nil _ _ _)
        | cons q qs =>
            rw [hs] at h
            obtain ⟨hq', rfl⟩ := List.cons.inj h
            obtain ⟨-, rfl⟩ := List.cons.inj hq'
            have hrec := ih (fun e he => hfront e (List.mem_cons_of_mem _ he)) hs
            rw [List.mem_cons, not_or]
            exact ⟨Ne.symm hne, hrec⟩

/-! ## Joined texts -/

/-- Where a scan stands after a text; it is back at its start outside quotes and parentheses. -/
def Scan.run (s : Scan) (t : List Char) : Scan := t.foldl step s

theorem cutsAt_start_iff : Scan.start.cutsAt [c] c = true ↔ c ≠ '"' ∧ c ≠ '(' ∧ c ≠ ')' := by
  simp [Scan.cutsAt, and_assoc]

/-- The separator at a cut leaves the scan where it is. -/
theorem step_of_cutsAt (h : s.cutsAt sep c = true) : s.step c = s := by
  simp only [Scan.cutsAt, Bool.and_eq_true, decide_eq_true_eq] at h
  obtain ⟨⟨⟨⟨rfl, hq⟩, ho⟩, hc⟩, -⟩ := h
  simp [Scan.step, Scan.start, hq, ho, hc]

theorem consFirst_append {parts : List (List Char)} (h : parts ≠ []) (more : List (List Char)) :
    consFirst c (parts ++ more) = consFirst c parts ++ more := by
  cases parts with
  | nil => exact absurd rfl h
  | cons part parts => rfl

theorem consFirst_inj {parts parts' : List (List Char)} (h : parts ≠ []) (h' : parts' ≠ []) :
    consFirst c parts = consFirst c parts' ↔ parts = parts' := by
  cases parts with
  | nil => exact absurd rfl h
  | cons part parts =>
      cases parts' with
      | nil => exact absurd rfl h'
      | cons part' parts' => simp [consFirst]

/-- A separator between two texts is cut exactly where the scan of the first one is back at its
start. -/
theorem splitFrom_append_cons_iff (hc : Scan.start.cutsAt [c] c = true) (a b : List Char) :
    splitFrom [c] s (a ++ c :: b) = splitFrom [c] s a ++ splitFrom [c] .start b ↔
      s.run a = .start := by
  induction a generalizing s with
  | nil =>
      show splitFrom [c] s (c :: b) = [] :: splitFrom [c] .start b ↔ s = .start
      rw [splitFrom]
      split
      · rename_i hcut
        obtain ⟨rfl, -⟩ := eq_of_cutsAt hcut
        simp
      · rename_i hcut
        have hs : s ≠ .start := by
          rintro rfl
          exact hcut hc
        -- without a cut the separator goes to the front of the next part
        cases splitFrom [c] (s.step c) b <;> simp [consFirst, hs]
  | cons d a ih =>
      show splitFrom [c] s (d :: (a ++ c :: b)) = splitFrom [c] s (d :: a) ++ _ ↔
        (s.step d).run a = .start
      rw [splitFrom, splitFrom]
      split
      · rename_i hcut
        rw [step_of_cutsAt hcut, List.cons_append, List.cons.injEq, ← ih]
        simp
      · have hne := splitFrom_ne_nil [c] (s.step d) a
        have hjoined := splitFrom_ne_nil [c] (s.step d) (a ++ c :: b)
        have happend := List.append_ne_nil_of_left_ne_nil hne (splitFrom [c] .start b)
        rw [← consFirst_append hne, consFirst_inj hjoined happend, ih]

/-- Cutting a text loses nothing, and a part cannot be cut again. Between two texts a separator is
cut exactly where a scan of the first one ends outside quotes and parentheses. -/
theorem split_parts (sep : List Char) :
    (∀ t, sep.intercalate (split sep t) = t) ∧
    (∀ t, ∀ p ∈ split sep t, p ≠ [] → split sep p = [p]) ∧
    ∀ c a b, sep = [c] → c ≠ '"' → c ≠ '(' → c ≠ ')' → a ≠ [] → b ≠ [] →
      (split sep (a ++ sep ++ b) = split sep a ++ split sep b ↔ Scan.start.run a = .start) := by
  refine ⟨fun t => ?_, fun t p hp hne => ?_, ?_⟩
  · by_cases ht : t = []
    · rw [ht]
      rfl
    · rw [split, if_neg ht, intercalate_splitFrom]
  · rw [split, if_neg hne, splitFrom_of_mem_split hp]
  · rintro c a b rfl hq ho hc ha hb
    have hcut := cutsAt_start_iff.2 ⟨hq, ho, hc⟩
    have hab : a ++ [c] ++ b ≠ [] := by simp
    rw [split, split, split, if_neg ha, if_neg hb, if_neg hab, List.append_assoc]
    exact splitFrom_append_cons_iff hcut a b

/-- A comma after closed quotes and a closed parenthesis is cut, one behind an open one is not. -/
theorem split_parts_nested :
    let a := "x,(\"a),\\\",\",b)".toList
    let b := ",(c,d".toList
    let part := "(\"a),\\\",\",b)".toList
    Scan.start.run a = .start ∧ Scan.start.run b ≠ .start ∧ part ∈ split [','] a ∧
      split [','] part = [part] ∧
      split [','] (a ++ [','] ++ b) = split [','] a ++ split [','] b ∧
      split [','] (b ++ [','] ++ a) ≠ split [','] b ++ split [','] a := by
  intro a b part
  obtain ⟨-, hagain, hjoin⟩ := split_parts [',']
  have ha : Scan.start.run a = .start := by decide
  have hb : Scan.start.run b ≠ .start := by decide
  have hpart : part ∈ split [','] a := by decide
  refine ⟨ha, hb, hpart, hagain a part hpart (by decide), ?_, fun h => hb ?_⟩
  · exact (hjoin ',' a b rfl (by decide) (by decide) (by decide) (by decide) (by decide)).2 ha
  · exact (hjoin ',' b a rfl (by decide) (by decide) (by decide) (by decide) (by decide)).1 h

end RowFilter.Wire.TopLevel
