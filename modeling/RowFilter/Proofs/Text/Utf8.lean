import RowFilter.Text.Utf8

/-!
# Characters through UTF-8

The bytes of a character, read between two characters, give that character and nothing else. The
range of the second byte, which excludes surrogates and overlong forms, never excludes it.
-/

namespace RowFilter.Text.Utf8

namespace Pending

/-- The characters that bytes complete, and the state that they lead to. -/
def run : Pending → List Nat → List Char × Pending
  | p, [] => ([], p)
  | p, b :: bs => ((p.step b).1 ++ ((p.step b).2.run bs).1, ((p.step b).2.run bs).2)

/-! ## Lead bytes -/

theorem step_idle_ascii {b : Nat} (h : b < 0x80) : idle.step b = ([Char.ofNat b], idle) := by
  simp [step, start, h]

theorem step_idle_lead {b : Nat} {p : Pending} (hb : 0x80 ≤ b) (h : ofLead? b = some p) :
    idle.step b = ([], p) := by
  simp [step, start, Nat.not_lt.2 hb, h]

theorem ofLead?_two {k : Nat} (h : 2 ≤ k) (hk : k < 0x20) :
    ofLead? (0xC0 + k) = some (.within 1 k 0x80 0xBF) := by
  unfold ofLead?
  rw [if_pos (by omega), Nat.add_sub_cancel_left]

/-- The second byte of three is in its range: it is no overlong form and no surrogate. -/
theorem ofLead?_three {k m : Nat} (hk : k < 0x10) (hm : m < 0x40) (hlong : k = 0 → 0x20 ≤ m)
    (hsurrogate : k = 0xD → m < 0x20) :
    ∃ low high, ofLead? (0xE0 + k) = some (.within 2 k low high) ∧ low ≤ 0x80 + m ∧
      0x80 + m ≤ high := by
  unfold ofLead?
  rw [if_neg (by omega)]
  by_cases h0 : k = 0
  · have := hlong h0
    exact ⟨0xA0, 0xBF, by simp [h0], by omega, by omega⟩
  · by_cases hd : k = 0xD
    · have := hsurrogate hd
      exact ⟨0x80, 0x9F, by simp [hd], by omega, by omega⟩
    · refine ⟨0x80, 0xBF, ?_, by omega, by omega⟩
      rw [if_neg (by omega), if_neg (by omega), if_pos (by omega), Nat.add_sub_cancel_left]

/-- The second byte of four is in its range: the code point is above `U+FFFF` and at most the last
one. -/
theorem ofLead?_four {k m : Nat} (hk : k ≤ 4) (hm : m < 0x40) (hlong : k = 0 → 0x10 ≤ m)
    (hlast : k = 4 → m < 0x10) :
    ∃ low high, ofLead? (0xF0 + k) = some (.within 3 k low high) ∧ low ≤ 0x80 + m ∧
      0x80 + m ≤ high := by
  unfold ofLead?
  rw [if_neg (by omega), if_neg (by omega), if_neg (by omega), if_neg (by omega)]
  by_cases h0 : k = 0
  · have := hlong h0
    exact ⟨0x90, 0xBF, by simp [h0], by omega, by omega⟩
  · by_cases h4 : k = 4
    · have := hlast h4
      exact ⟨0x80, 0x8F, by simp [h4], by omega, by omega⟩
    · refine ⟨0x80, 0xBF, ?_, by omega, by omega⟩
      rw [if_neg (by omega), if_pos (by omega), Nat.add_sub_cancel_left]

/-! ## Continuation bytes -/

theorem step_last (bits : Nat) {low high m : Nat} (hl : low ≤ 0x80 + m) (hh : 0x80 + m ≤ high) :
    (within 1 bits low high).step (0x80 + m) = ([Char.ofNat (bits * 0x40 + m)], idle) := by
  simp [step, hl, hh]

theorem step_inner {left : Nat} (hleft : 2 ≤ left) (bits : Nat) {low high m : Nat}
    (hl : low ≤ 0x80 + m) (hh : 0x80 + m ≤ high) :
    (within left bits low high).step (0x80 + m) =
      ([], within (left - 1) (bits * 0x40 + m) 0x80 0xBF) := by
  simp [step, hl, hh, show ¬left ≤ 1 by omega]

theorem tail_bounds (n : Nat) : 0x80 ≤ 0x80 + n % 0x40 ∧ 0x80 + n % 0x40 ≤ 0xBF := by
  omega

end Pending

/-! ## Whole characters -/

theorem toNat_bounds (c : Char) : c.toNat < 0xD800 ∨ 0xDFFF < c.toNat ∧ c.toNat < 0x110000 :=
  c.valid

theorem lt_of_mem_encodeChar (c : Char) : ∀ b ∈ encodeChar c, b < 0x100 := by
  have hv := toNat_bounds c
  intro b hb
  unfold encodeChar at hb
  generalize c.toNat = n at hv hb
  simp only [] at hb
  split at hb
  · simp only [List.mem_singleton] at hb
    omega
  split at hb
  · simp only [List.mem_cons, List.not_mem_nil, or_false] at hb
    omega
  split at hb
  · simp only [List.mem_cons, List.not_mem_nil, or_false] at hb
    omega
  · simp only [List.mem_cons, List.not_mem_nil, or_false] at hb
    omega

open Pending in
theorem run_encodeChar (c : Char) : idle.run (encodeChar c) = ([c], idle) := by
  have hv := toNat_bounds c
  have hc : Char.ofNat c.toNat = c := Char.ofNat_toNat c
  unfold encodeChar
  generalize c.toNat = n at hv hc
  obtain ⟨hl, hh⟩ := tail_bounds n
  -- the four lengths, each with its lead byte and then its continuation bytes
  by_cases h1 : n < 0x80
  · simp [h1, run, step_idle_ascii h1, hc]
  by_cases h2 : n < 0x800
  · have hfirst : ofLead? (0xC0 + n / 0x40) = some (.within 1 (n / 0x40) 0x80 0xBF) :=
      ofLead?_two (by omega) (by omega)
    have hlead := step_idle_lead (by omega) hfirst
    have hlast := step_last (n / 0x40) hl hh
    have hn : n / 0x40 * 0x40 + n % 0x40 = n := by omega
    simp [h1, h2, run, hlead, hlast, hn, hc]
  obtain ⟨hl2, hh2⟩ := tail_bounds (n / 0x40)
  by_cases h3 : n < 0x10000
  · have hfirst : ∃ low high, ofLead? (0xE0 + n / 0x1000) = some (.within 2 (n / 0x1000) low high) ∧
        low ≤ 0x80 + n / 0x40 % 0x40 ∧ 0x80 + n / 0x40 % 0x40 ≤ high :=
      ofLead?_three (by omega) (by omega) (by omega) (by omega)
    obtain ⟨low, high, hfirst, hl1, hh1⟩ := hfirst
    have hlead := step_idle_lead (by omega) hfirst
    have hinner := step_inner (Nat.le_refl 2) (n / 0x1000) hl1 hh1
    have hlast := step_last (n / 0x1000 * 0x40 + n / 0x40 % 0x40) hl hh
    have hn : (n / 0x1000 * 0x40 + n / 0x40 % 0x40) * 0x40 + n % 0x40 = n := by omega
    simp only [Nat.reduceSub] at hinner
    simp [h1, h2, h3, run, hlead, hinner, hlast, hn, hc]
  · have hfirst : ∃ low high, ofLead? (0xF0 + n / 0x40000) =
        some (.within 3 (n / 0x40000) low high) ∧
        low ≤ 0x80 + n / 0x1000 % 0x40 ∧ 0x80 + n / 0x1000 % 0x40 ≤ high :=
      ofLead?_four (by omega) (by omega) (by omega) (by omega)
    obtain ⟨low, high, hfirst, hl1, hh1⟩ := hfirst
    have hlead := step_idle_lead (by omega) hfirst
    have hinner := step_inner (Nat.le_succ 2) (n / 0x40000) hl1 hh1
    have hnext := step_inner (Nat.le_refl 2) (n / 0x40000 * 0x40 + n / 0x1000 % 0x40) hl2 hh2
    have hlast := step_last
      ((n / 0x40000 * 0x40 + n / 0x1000 % 0x40) * 0x40 + n / 0x40 % 0x40) hl hh
    have hn : ((n / 0x40000 * 0x40 + n / 0x1000 % 0x40) * 0x40 + n / 0x40 % 0x40) * 0x40 +
        n % 0x40 = n := by omega
    simp only [Nat.reduceSub] at hinner hnext
    simp [h1, h2, h3, run, hlead, hinner, hnext, hlast, hn, hc]

end RowFilter.Text.Utf8
