import RowFilter.Wire.Quoted

/-!
# Values in quotes

Reading undoes writing wherever a value stands. A value alone is written in quotes exactly if it would
otherwise be read as another one: what is read from a quoted text is shorter than the text.
-/

namespace RowFilter.Wire.Quoted

/-! ## Escaping in two passes -/

/-- The text with another one in place of each occurrence of a character. -/
def replace (c : Char) (other s : List Char) : List Char :=
  s.flatMap fun d => if d = c then other else [d]

/-- Backslashes are doubled first; the ones in front of the quotes come after that and stay single. -/
theorem escape_eq_replace (s : List Char) :
    s.flatMap escapeChar = replace '"' ['\\', '"'] (replace '\\' ['\\', '\\'] s) := by
  rw [replace, replace, List.flatMap_assoc]
  congr 1
  funext c
  by_cases hb : c = '\\'
  · subst hb
    rfl
  · by_cases hq : c = '"' <;> simp [escapeChar, hb, hq]

/-! ## Values that are written bare -/

theorem length_unescape_le (s : List Char) : (unescape s).length ≤ s.length := by
  induction s using unescape.induct with
  | case1 => exact Nat.le_refl _
  | case2 c => exact Nat.le_refl _
  | case3 d rest ih =>
      simp only [unescape, if_true, List.length_cons]
      omega
  | case4 c d rest hc ih =>
      simp only [unescape, hc, if_false, List.length_cons] at ih ⊢
      omega

theorem length_decode_lt {s : List Char} (h : isQuoted s = true) :
    (decode s).length < s.length := by
  cases s with
  | nil => cases h
  | cons c rest =>
      have hle := length_unescape_le rest.dropLast
      rw [decode, if_pos h, List.tail_cons, List.length_cons]
      rw [List.length_dropLast] at hle
      omega

theorem isQuoted_iff_decode_ne {s : List Char} : isQuoted s = true ↔ decode s ≠ s := by
  constructor
  · intro h hs
    have hlt := length_decode_lt h
    rw [hs] at hlt
    exact Nat.lt_irrefl _ hlt
  · intro h
    rw [← Bool.not_eq_false]
    intro hs
    exact h (by rw [decode, hs]; rfl)

theorem encode_alone_eq_self_iff {s : List Char} : encode .alone s = s ↔ decode s = s := by
  constructor
  · intro h
    have hread := decode_encode .alone s
    rwa [h] at hread
  · intro h
    have hbare : needsQuotes .alone s = false :=
      Bool.eq_false_iff.2 fun hs => isQuoted_iff_decode_ne.1 hs h
    rw [encode, hbare]
    rfl

/-- A value is read as it was written, alone or nested. A value alone is written in quotes exactly if
it would be read as something else without them. -/
theorem decode_encode_and_quotes_iff :
    (∀ place s, decode (encode place s) = s) ∧
    (∀ place s, needsQuotes place s = true → encode place s =
      '"' :: replace '"' ['\\', '"'] (replace '\\' ['\\', '\\'] s) ++ ['"']) ∧
    (∀ s, needsQuotes .alone s = true ↔ decode s ≠ s) ∧
    ∀ s, encode .alone s = s ↔ decode s = s := by
  refine ⟨decode_encode, fun place s h => ?_, fun _ => isQuoted_iff_decode_ne,
    fun _ => encode_alone_eq_self_iff⟩
  rw [encode, if_pos h, escape_eq_replace]

/-- Written bare, this value would lose its quotes and one of its backslashes. -/
theorem decode_encode_and_quotes_marks :
    let s := "\"a\\\\\"".toList
    needsQuotes .alone s = true ∧ decode s = "a\\".toList ∧ encode .alone s ≠ s ∧
      encode .alone s = "\"\\\"a\\\\\\\\\\\"\"".toList ∧ decode (encode .alone s) = s := by
  intro s
  obtain ⟨hread, hescape, hquotes, hbare⟩ := decode_encode_and_quotes_iff
  have hs : needsQuotes .alone s = true := by decide
  refine ⟨hs, by decide, fun h => (hquotes s).1 hs ((hbare s).1 h), ?_, hread .alone s⟩
  rw [hescape .alone s hs]
  decide

end RowFilter.Wire.Quoted
