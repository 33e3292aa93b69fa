import RowFilter.Proofs.Text.Utf8
import RowFilter.Wire.Percent

/-!
# Reading percent encoding back

An encoded text gives the text wherever it stands in a fragment, because its bytes end between two
characters. A text without percent signs gives itself. In an encoded text each percent sign begins an
escape.
-/

namespace RowFilter.Wire.Percent

open RowFilter.Text

/-! ## Escapes -/

theorem hexValue?_hexDigit {n : Nat} (h : n < 16) : hexValue? (hexDigit n) = some n := by
  revert n
  decide

theorem isUnreserved_hexDigit {n : Nat} (h : n < 16) : isUnreserved (hexDigit n) = true := by
  revert n
  decide

theorem ne_percent_of_isUnreserved {c : Char} (h : isUnreserved c = true) : c ≠ '%' := by
  rintro rfl
  revert h
  decide

theorem pieces_escapeByte_append {b : Nat} (hb : b < 0x100) (rest : List Char) :
    pieces (escapeByte b ++ rest) = .byte b :: pieces rest := by
  have hhigh : hexValue? (hexDigit (b / 16)) = some (b / 16) := hexValue?_hexDigit (by omega)
  have hlow : hexValue? (hexDigit (b % 16)) = some (b % 16) := hexValue?_hexDigit (by omega)
  have he : escape? '%' (hexDigit (b / 16)) (hexDigit (b % 16)) = some b := by
    have hn : 16 * (b / 16) + b % 16 = b := by omega
    simp [escape?, hhigh, hlow, hn]
  simp [escapeByte, pieces, he]

theorem pieces_flatMap_escapeByte_append {bs : List Nat} (hbs : ∀ b ∈ bs, b < 0x100)
    (rest : List Char) : pieces (bs.flatMap escapeByte ++ rest) = bs.map .byte ++ pieces rest := by
  induction bs with
  | nil => rfl
  | cons b bs ih =>
      have hb := hbs b (List.mem_cons_self ..)
      rw [List.flatMap_cons, List.append_assoc, pieces_escapeByte_append hb,
        ih fun b h => hbs b (List.mem_cons_of_mem _ h)]
      rfl

theorem pieces_cons {c : Char} (hc : c ≠ '%') (rest : List Char) :
    pieces (c :: rest) = .ofChar c :: pieces rest := by
  match rest with
  | [] => rfl
  | [_] => rfl
  | _ :: _ :: _ => simp [pieces, escape?, hc]

/-! ## Bytes in a row -/

theorem join_bytes_append (p : Utf8.Pending) (bs : List Nat) (rest : List Piece) :
    join p (bs.map .byte ++ rest) = (p.run bs).1 ++ join (p.run bs).2 rest := by
  induction bs generalizing p with
  | nil => rfl
  | cons b bs ih => simp [join, Utf8.Pending.run, ih]

theorem join_ofChar (c : Char) (rest : List Piece) :
    join .idle (.ofChar c :: rest) = c :: join .idle rest := by
  unfold Piece.ofChar
  by_cases hc : c.toNat < 0x80
  · have hs := Utf8.Pending.step_idle_ascii hc
    rw [Char.ofNat_toNat] at hs
    simp [hc, join, hs]
  · simp [hc, join, Utf8.Pending.finish]

/-! ## Wire forms of a text -/

/-- Reading gives the text for the wire form, whatever follows it. -/
def Spells (wire text : List Char) : Prop := ∀ rest, decode (wire ++ rest) = text ++ decode rest

namespace Spells

variable {w v t u : List Char} {c : Char}

theorem nil : Spells [] [] := fun _ => rfl

theorem append (hw : Spells w t) (hv : Spells v u) : Spells (w ++ v) (t ++ u) := by
  intro rest
  rw [List.append_assoc, hw, hv, List.append_assoc]

theorem cons (hc : c ≠ '%') (hw : Spells w t) : Spells (c :: w) (c :: t) := by
  intro rest
  have h := hw rest
  unfold decode at h ⊢
  rw [List.cons_append, pieces_cons hc, join_ofChar, h]
  rfl

theorem plain (hw : '%' ∉ w) : Spells w w := by
  induction w with
  | nil => exact nil
  | cons c w ih =>
      rw [List.mem_cons, not_or] at hw
      exact cons (Ne.symm hw.1) (ih hw.2)

theorem encodeChar (c : Char) : Spells (encodeChar c) [c] := by
  intro rest
  unfold Percent.encodeChar
  split
  · rename_i hc
    exact cons (ne_percent_of_isUnreserved hc) nil rest
  · unfold decode
    rw [pieces_flatMap_escapeByte_append (Utf8.lt_of_mem_encodeChar c), join_bytes_append,
      Utf8.run_encodeChar]

theorem encode (s : List Char) : Spells (encode s) s := by
  induction s with
  | nil => exact nil
  | cons c s ih => exact append (encodeChar c) ih

theorem decode_eq (hw : Spells w t) : decode w = t := by
  simpa [decode, pieces, join, Utf8.Pending.finish] using hw []

end Spells

/-! ## The characters of an encoded text -/

theorem mem_encodeChar {c d : Char} (h : d ∈ encodeChar c) : isUnreserved d = true ∨ d = '%' := by
  unfold encodeChar at h
  split at h
  · rename_i hc
    exact .inl (List.mem_singleton.1 h ▸ hc)
  · obtain ⟨b, hb, hd⟩ := List.mem_flatMap.1 h
    have hb := Utf8.lt_of_mem_encodeChar c b hb
    simp only [escapeByte, List.mem_cons, List.not_mem_nil, or_false] at hd
    rcases hd with rfl | rfl | rfl
    · exact .inr rfl
    · exact .inl (isUnreserved_hexDigit (by omega))
    · exact .inl (isUnreserved_hexDigit (by omega))

theorem mem_encode {s : List Char} {d : Char} (h : d ∈ encode s) :
    isUnreserved d = true ∨ d = '%' := by
  obtain ⟨c, _, hd⟩ := List.mem_flatMap.1 h
  exact mem_encodeChar hd

/-! ## Percent signs of an encoded text -/

def hexDigits : List Char := "0123456789ABCDEF".toList

theorem hexDigit_mem_hexDigits {n : Nat} (h : n < 16) : hexDigit n ∈ hexDigits := by
  revert n
  decide

/-- Every percent sign is followed by two hexadecimal digits in upper case. -/
def Escapes (wire : List Char) : Prop :=
  ∀ front rest, wire = front ++ '%' :: rest →
    ∃ high low back, rest = high :: low :: back ∧ high ∈ hexDigits ∧ low ∈ hexDigits

namespace Escapes

variable {w v : List Char} {c : Char}

theorem plain (hw : '%' ∉ w) : Escapes w := by
  rintro front rest rfl
  simp at hw

theorem append (hw : Escapes w) (hv : Escapes v) : Escapes (w ++ v) := by
  intro front rest h
  rcases List.append_eq_append_iff.1 h with ⟨skipped, -, hsign⟩ | ⟨more, hsign, hrest⟩
  · exact hv skipped rest hsign
  · cases more with
    | nil => exact hv [] rest hrest.symm
    | cons c more =>
        -- the escape lies in the first text as a whole
        obtain ⟨rfl, rfl⟩ := List.cons.inj hrest
        obtain ⟨high, low, back, rfl, hhigh, hlow⟩ := hw front more hsign
        exact ⟨high, low, back ++ v, rfl, hhigh, hlow⟩

theorem cons (hc : c ≠ '%') (hw : Escapes w) : Escapes (c :: w) :=
  append (plain (w := [c]) (by simpa using Ne.symm hc)) hw

theorem escapeByte {b : Nat} (hb : b < 0x100) : Escapes (escapeByte b) := by
  have hhigh : hexDigit (b / 16) ∈ hexDigits := hexDigit_mem_hexDigits (by omega)
  have hlow : hexDigit (b % 16) ∈ hexDigits := hexDigit_mem_hexDigits (by omega)
  intro front rest h
  cases front with
  | nil =>
      obtain ⟨-, rfl⟩ := List.cons.inj h
      exact ⟨_, _, [], rfl, hhigh, hlow⟩
  | cons c front =>
      obtain ⟨-, hdigits⟩ := List.cons.inj h
      have hmem : '%' ∈ [hexDigit (b / 16), hexDigit (b % 16)] := by simp [hdigits]
      have hsubset : [hexDigit (b / 16), hexDigit (b % 16)] ⊆ hexDigits := by simp [hhigh, hlow]
      exact absurd (hsubset hmem) (by decide)

theorem flatMap {α : Type} {f : α → List Char} {xs : List α} (h : ∀ x ∈ xs, Escapes (f x)) :
    Escapes (xs.flatMap f) := by
  induction xs with
  | nil => exact plain List.not_mem_nil
  | cons x xs ih =>
      obtain ⟨hx, hxs⟩ := List.forall_mem_cons.1 h
      exact append hx (ih hxs)

theorem encodeChar (c : Char) : Escapes (encodeChar c) := by
  unfold Percent.encodeChar
  split
  · rename_i hc
    exact cons (ne_percent_of_isUnreserved hc) (plain List.not_mem_nil)
  · exact flatMap fun b hb => escapeByte (Utf8.lt_of_mem_encodeChar c b hb)

theorem encode (s : List Char) : Escapes (encode s) := flatMap fun c _ => encodeChar c

end Escapes

/-! ## Encoded text inside other text -/

/-- An encoded text between texts without percent signs is read as it was. It holds unreserved
characters and percent signs only, and each of these begins an escape. -/
theorem decode_append_encode_append {front back : List Char} (hfront : '%' ∉ front)
    (hback : '%' ∉ back) (t : List Char) :
    decode (front ++ encode t ++ back) = front ++ t ++ back ∧
      (∀ c ∈ encode t, isUnreserved c = true ∨ c = '%') ∧ Escapes (encode t) :=
  ⟨(((Spells.plain hfront).append (.encode t)).append (.plain hback)).decode_eq,
    fun _ hc => mem_encode hc, .encode t⟩

/-- The percent sign that is read last and the digits behind it make no escape. -/
theorem decode_append_encode_append_accents :
    let front := "é(".toList
    let back := "41é€)".toList
    let t := "€%é😀%".toList
    '%' ∉ front ∧ '%' ∉ back ∧ encode t = "%E2%82%AC%25%C3%A9%F0%9F%98%80%25".toList ∧
      decode (front ++ encode t ++ back) = front ++ t ++ back := by
  intro front back t
  have hfront : '%' ∉ front := by decide
  have hback : '%' ∉ back := by decide
  exact ⟨hfront, hback, by decide, (decode_append_encode_append hfront hback t).1⟩

end RowFilter.Wire.Percent
