import RowFilter.Text.Upper

/-!
# Identifiers in upper case

The underscore is its own upper case and stands in no other one, so the underscores at the front of a
text may be dropped before or after its case is changed. Different identifiers in lower case have
different upper cases.
-/

namespace RowFilter.Text

/-! ## One character -/

theorem upperChar_cases (c : Char) :
    (∃ e ∈ upperExpansions, upperChar c = e.2.map Char.ofNat) ∨
    (∃ r ∈ upperShifts, r.covers c.toNat = true ∧
      upperChar c = [Char.ofNat (c.toNat + r.shift).toNat]) ∨
    upperChar c = [c] := by
  cases hexpansion : upperExpansions.lookup c.toNat with
  | some ns =>
      obtain ⟨front, back, hmem, -⟩ := List.lookup_eq_some_iff.1 hexpansion
      refine .inl ⟨(c.toNat, ns), ?_, by rw [upperChar, mapCase, hexpansion]⟩
      rw [hmem]
      exact List.mem_append_right _ (List.mem_cons_self ..)
  | none =>
      right
      cases hrun : upperShifts.find? (·.covers c.toNat) with
      | some r =>
          have hcovers := List.find?_some hrun
          refine .inl ⟨r, List.mem_of_find?_eq_some hrun, hcovers, ?_⟩
          rw [upperChar, mapCase, hexpansion, CaseShift.apply, hrun]
      | none =>
          right
          rw [upperChar, mapCase, hexpansion, CaseShift.apply, hrun]
          exact congrArg (fun d => [d]) (Char.ofNat_toNat c)

theorem expansions_ne_nil : ∀ e ∈ upperExpansions, e.2 ≠ [] := by
  decide +kernel

theorem underscore_not_mem_expansions :
    ∀ e ∈ upperExpansions, '_' ∉ e.2.map Char.ofNat := by
  decide +kernel

/-- No run covers the code point that it would move to the underscore. -/
theorem shifts_miss_underscore :
    ∀ r ∈ upperShifts, ¬((r.first : Int) ≤ 0x5F - r.shift ∧ 0x5F - r.shift ≤ r.last) := by
  decide +kernel

theorem eq_of_ofNat_eq_underscore {n : Nat} (h : Char.ofNat n = '_') : n = 0x5F := by
  by_cases hvalid : n.isValidChar
  · have hn : Char.ofNat n = Char.ofNatAux n hvalid := dif_pos hvalid
    exact congrArg Char.toNat (hn.symm.trans h)
  · have hn : Char.ofNat n = '\x00' := dif_neg hvalid
    exact absurd (hn.symm.trans h) (by decide)

theorem upperChar_ne_nil (c : Char) : upperChar c ≠ [] := by
  rcases upperChar_cases c with ⟨e, he, h⟩ | ⟨r, -, -, h⟩ | h
  · rw [h, ne_eq, List.map_eq_nil_iff]
    exact expansions_ne_nil e he
  · rw [h]
    exact List.cons_ne_nil _ _
  · rw [h]
    exact List.cons_ne_nil _ _

theorem underscore_not_mem_upperChar {c : Char} (hc : c ≠ '_') : '_' ∉ upperChar c := by
  rcases upperChar_cases c with ⟨e, he, h⟩ | ⟨r, hr, hcovers, h⟩ | h
  · rw [h]
    exact underscore_not_mem_expansions e he
  · rw [h, List.mem_singleton]
    intro hmoved
    have hn := eq_of_ofNat_eq_underscore hmoved.symm
    simp only [CaseShift.covers, Bool.and_eq_true, decide_eq_true_eq] at hcovers
    exact shifts_miss_underscore r hr (by omega)
  · rw [h, List.mem_singleton]
    exact hc.symm

/-! ## Texts -/

theorem upper_append (s t : List Char) : upper (s ++ t) = upper s ++ upper t :=
  List.flatMap_append

theorem dropWhile_upper (s : List Char) :
    (upper s).dropWhile (· = '_') = upper (s.dropWhile (· = '_')) := by
  induction s with
  | nil => rfl
  | cons c s ih =>
      by_cases hc : c = '_'
      · subst hc
        exact ih
      · obtain ⟨d, ds, hd⟩ := List.exists_cons_of_ne_nil (upperChar_ne_nil c)
        have hne : d ≠ '_' := by
          rintro rfl
          exact underscore_not_mem_upperChar hc (hd ▸ List.mem_cons_self ..)
        have hupper : upper (c :: s) = d :: (ds ++ upper s) := by
          rw [upper, List.flatMap_cons, hd]
          rfl
        rw [hupper, List.dropWhile_cons_of_neg (by simpa using hne),
          List.dropWhile_cons_of_neg (by simpa using hc), hupper]

/-! ## Identifiers -/

/-- The characters of identifiers in lower case: small letters, digits and underscores of ASCII. -/
def isNameChar (c : Char) : Bool := ('a' ≤ c && c ≤ 'z') || ('0' ≤ c && c ≤ '9') || c = '_'

/-- An identifier in lower case; it does not begin with a digit. -/
def isIdentifier : List Char → Bool
  | [] => false
  | c :: rest => !c.isDigit && (c :: rest).all isNameChar

theorem lt_of_isNameChar {c : Char} (h : isNameChar c = true) : c.toNat < 0x80 := by
  simp only [isNameChar, Bool.or_eq_true, Bool.and_eq_true, decide_eq_true_eq] at h
  rcases h with (⟨-, hz⟩ | ⟨-, hnine⟩) | rfl
  · exact Nat.lt_of_le_of_lt (show c.toNat ≤ 0x7A from hz) (by decide)
  · exact Nat.lt_of_le_of_lt (show c.toNat ≤ 0x39 from hnine) (by decide)
  · decide

theorem map_toLower_upperChar {c : Char} (h : isNameChar c = true) :
    (upperChar c).map Char.toLower = [c] := by
  have hascii : ∀ n < 0x80, isNameChar (Char.ofNat n) = true →
      (upperChar (Char.ofNat n)).map Char.toLower = [Char.ofNat n] := by
    decide +kernel
  have hc := hascii c.toNat (lt_of_isNameChar h)
  rw [Char.ofNat_toNat] at hc
  exact hc h

theorem map_toLower_upper {s : List Char} (h : ∀ c ∈ s, isNameChar c = true) :
    (upper s).map Char.toLower = s := by
  induction s with
  | nil => rfl
  | cons c s ih =>
      obtain ⟨hc, hs⟩ := List.forall_mem_cons.1 h
      rw [upper, List.flatMap_cons, List.map_append, map_toLower_upperChar hc]
      exact congrArg (c :: ·) (ih hs)

theorem upper_inj {s t : List Char} (hs : ∀ c ∈ s, isNameChar c = true)
    (ht : ∀ c ∈ t, isNameChar c = true) : upper s = upper t ↔ s = t := by
  refine ⟨fun h => ?_, fun h => by rw [h]⟩
  rw [← map_toLower_upper hs, h, map_toLower_upper ht]

theorem forall_isNameChar {s : List Char} (h : isIdentifier s = true) :
    ∀ c ∈ s, isNameChar c = true := by
  cases s with
  | nil => cases h
  | cons c s =>
      rw [isIdentifier, Bool.and_eq_true] at h
      exact List.all_eq_true.1 h.2

end RowFilter.Text
