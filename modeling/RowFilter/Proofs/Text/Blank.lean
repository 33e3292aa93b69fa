import Mathlib.Data.List.TakeWhile
import RowFilter.Text.Blank

/-!
# Blanks at the ends of a text

Trimming takes away the blanks at both ends and nothing else, so a text may as well be trimmed
before it is cut at a character that is no blank.
-/

namespace RowFilter.Text

variable {front back s t : List Char} {c : Char}

/-! ## Trimming the end -/

theorem trimEnd_append_blanks (hback : ∀ c ∈ back, isBlank c = true) (s : List Char) :
    trimEnd (s ++ back) = trimEnd s := by
  have hreverse : ∀ c ∈ back.reverse, isBlank c = true :=
    fun c hc => hback c (List.mem_reverse.1 hc)
  rw [trimEnd, dropEndWhile, List.reverse_append, List.dropWhile_append_of_pos hreverse]
  rfl

/-- What stands before a character that is no blank stays as it is. -/
theorem trimEnd_append_cons (hc : isBlank c = false) (front t : List Char) :
    trimEnd (front ++ c :: t) = front ++ c :: trimEnd t := by
  have hsplit : (front ++ c :: t).reverse = t.reverse ++ c :: front.reverse := by simp
  rw [trimEnd, dropEndWhile, hsplit, List.dropWhile_append]
  split
  · rename_i hempty
    have hnil : t.reverse.dropWhile isBlank = [] := List.isEmpty_iff.1 hempty
    rw [List.dropWhile_cons_of_neg (by simp [hc]), trimEnd, dropEndWhile, hnil]
    simp
  · rw [trimEnd, dropEndWhile]
    simp

theorem trimEnd_cons (hc : isBlank c = false) (t : List Char) : trimEnd (c :: t) = c :: trimEnd t :=
  trimEnd_append_cons hc [] t

theorem exists_trimEnd_append (s : List Char) :
    ∃ back, (∀ c ∈ back, isBlank c = true) ∧ s = trimEnd s ++ back := by
  refine ⟨(s.reverse.takeWhile isBlank).reverse, fun c hc => ?_, ?_⟩
  · exact List.all_eq_true.1 (List.all_takeWhile (l := s.reverse)) c (List.mem_reverse.1 hc)
  · rw [trimEnd, dropEndWhile, ← List.reverse_append, List.takeWhile_append_dropWhile,
      List.reverse_reverse]

/-! ## Trimming both ends -/

theorem trim_append_blanks (hfront : ∀ c ∈ front, isBlank c = true)
    (hback : ∀ c ∈ back, isBlank c = true) (s : List Char) :
    trim (front ++ (s ++ back)) = trim s := by
  rw [trim, List.dropWhile_append_of_pos hfront, List.dropWhile_append]
  split
  · rename_i hempty
    have hnil : s.dropWhile isBlank = [] := List.isEmpty_iff.1 hempty
    have hblank : back.dropWhile isBlank = [] := List.dropWhile_eq_nil_iff.2 hback
    rw [trim, hnil, hblank]
  · exact trimEnd_append_blanks hback _

theorem exists_append_trim (s : List Char) :
    ∃ front back, (∀ c ∈ front, isBlank c = true) ∧ (∀ c ∈ back, isBlank c = true) ∧
      s = front ++ (trim s ++ back) := by
  obtain ⟨back, hback, hs⟩ := exists_trimEnd_append (s.dropWhile isBlank)
  refine ⟨s.takeWhile isBlank, back, ?_, hback, ?_⟩
  · exact List.all_eq_true.1 List.all_takeWhile
  · rw [trim, ← hs, List.takeWhile_append_dropWhile]

theorem trim_cons (hc : isBlank c = false) (t : List Char) : trim (c :: t) = c :: trimEnd t := by
  rw [trim, List.dropWhile_cons_of_neg (by simp [hc]), trimEnd_cons hc]

theorem trim_append_cons {b : Char} (hb : isBlank b = false) (hc : isBlank c = false)
    (front t : List Char) : trim (b :: front ++ c :: t) = b :: front ++ c :: trimEnd t := by
  rw [List.cons_append, trim_cons hb, trimEnd_append_cons hc, List.cons_append]

theorem trim_eq_self_of_ends (hhead : ∀ c ∈ s.head?, isBlank c = false)
    (hlast : ∀ c ∈ s.getLast?, isBlank c = false) : trim s = s := by
  cases s with
  | nil => rfl
  | cons b s =>
      rw [trim_cons (hhead b rfl)]
      rcases List.eq_nil_or_concat s with rfl | ⟨front, c, rfl⟩
      · rfl
      · have hc : isBlank c = false := hlast c (by simp [List.getLast?_cons])
        rw [List.concat_eq_append, trimEnd_append_cons hc]
        rfl

theorem trim_eq_self (h : ∀ c ∈ s, isBlank c = false) : trim s = s :=
  trim_eq_self_of_ends (fun c hc => h c (List.mem_of_mem_head? hc))
    fun c hc => h c (List.mem_of_getLast? hc)

/-- The second text is what is left of the first one without the blanks at its ends. -/
structure Trims (s t : List Char) : Prop where
  exists_blanks : ∃ front back, (∀ c ∈ front, isBlank c = true) ∧
    (∀ c ∈ back, isBlank c = true) ∧ s = front ++ (t ++ back)
  head : ∀ c ∈ t.head?, isBlank c = false
  last : ∀ c ∈ t.getLast?, isBlank c = false

theorem trims_trim (s : List Char) : Trims s (trim s) where
  exists_blanks := exists_append_trim s
  head := by
    have hhead := List.head?_dropWhile_not isBlank s
    rw [trim]
    cases hs : s.dropWhile isBlank with
    | nil => simp [trimEnd, dropEndWhile]
    | cons b rest =>
        rw [hs] at hhead
        have hb : isBlank b = false := by simpa using hhead
        simpa [trimEnd_cons hb] using hb
  last := by
    intro c hc
    have hlast := List.head?_dropWhile_not isBlank (s.dropWhile isBlank).reverse
    rw [trim, trimEnd, dropEndWhile, List.getLast?_reverse] at hc
    rw [Option.mem_def.1 hc] at hlast
    simpa using hlast

theorem Trims.trim_eq (h : Trims s t) : trim s = t := by
  obtain ⟨⟨front, back, hfront, hback, rfl⟩, hhead, hlast⟩ := h
  rw [trim_append_blanks hfront hback, trim_eq_self_of_ends hhead hlast]

/-- A text may be trimmed before it is cut. -/
theorem trim_takeWhile {p : Char → Bool} (hp : ∀ c, isBlank c = true → p c = true)
    (s : List Char) : trim (s.takeWhile p) = trim ((trim s).takeWhile p) := by
  obtain ⟨front, back, hfront, hback, hs⟩ := exists_append_trim s
  have hall : ∀ u : List Char, (∀ c ∈ u, isBlank c = true) → ∀ c ∈ u, p c = true :=
    fun u hu c hc => hp c (hu c hc)
  have hcut : s.takeWhile p = front ++ (trim s ++ back).takeWhile p :=
    (congrArg (·.takeWhile p) hs).trans (List.takeWhile_append_of_pos (hall front hfront))
  rw [hcut, List.takeWhile_append]
  split
  · -- the cut does not reach into the trimmed text
    rename_i hlength
    have hkept : (trim s).takeWhile p = trim s :=
      (List.takeWhile_prefix p).eq_of_length hlength
    rw [List.takeWhile_eq_self_iff.2 (hall back hback), trim_append_blanks hfront hback, hkept]
  · have h := trim_append_blanks hfront (List.forall_mem_nil _) ((trim s).takeWhile p)
    rwa [List.append_nil] at h

end RowFilter.Text
