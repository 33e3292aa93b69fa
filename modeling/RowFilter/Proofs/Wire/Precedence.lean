import Mathlib.Data.List.Basic
import RowFilter.Proofs.Wire.ReadBack

/-!
# The order of forms

Only patterns meet each other on a text, and the present moment meets the two strict comparisons. What
a text is read as depends on the order of the forms within these pairs and on nothing else in it.
-/

namespace RowFilter.Wire

variable {column : Column} {text : List Char} {op : Operation} {forms : List Form} {f g : Form}

/-! ## Forms that meet -/

namespace Form

/-- The pairs of forms that can read one text; the first of a pair is to be tried first. -/
def precedence : List (Form × Form) :=
  [(.compare .contains, .compare .startsWith), (.compare .contains, .compare .endsWith),
   (.compare .startsWith, .compare .endsWith), (.now, .compare .lesserThan),
   (.now, .compare .greaterThan)]

def KeepsPrecedence (forms : List Form) : Prop :=
  ∀ p ∈ precedence, forms.idxOf p.1 < forms.idxOf p.2

instance (forms : List Form) : Decidable (KeepsPrecedence forms) :=
  inferInstanceAs (Decidable (∀ _ ∈ _, _))

theorem mem_all (f : Form) : f ∈ all := by
  cases f with
  | constant | now => decide
  | compare c => cases c <;> decide
  | member m => cases m <;> decide

theorem precedence_of_mem_leads : ∀ f ∈ all, ∀ g ∈ all, f ≠ g → ∀ word ∈ f.leads, word ∈ g.leads →
    (f, g) ∈ precedence ∨ (g, f) ∈ precedence := by
  decide

theorem ne_of_mem_precedence : ∀ p ∈ precedence, p.1 ≠ p.2 := by
  decide

/-- Two forms that read one text share its leading word. -/
theorem precedence_of_read? (hne : f ≠ g) (hf : (f.read? column text).isSome = true)
    (hg : (g.read? column text).isSome = true) :
    (f, g) ∈ precedence ∨ (g, f) ∈ precedence := by
  obtain ⟨op, hop⟩ := Option.isSome_iff_exists.1 hf
  obtain ⟨op', hop'⟩ := Option.isSome_iff_exists.1 hg
  exact precedence_of_mem_leads f f.mem_all g g.mem_all hne _ (leadingWord_mem_leads hop)
    (leadingWord_mem_leads hop')

/-! ## Forms of an operation -/

/-- The operators of the operations that a form reads. -/
def operators : Form → List Operator
  | .constant => [.truth true, .truth false, .check .isNull]
  | .now => [.check .inFuture, .check .inPast]
  | .compare c => [.compare c]
  | .member m => [.member m]

theorem eq_of_mem_operators : ∀ f ∈ all, ∀ g ∈ all, ∀ o ∈ f.operators, o ∈ g.operators → f = g := by
  decide

theorem operator_mem_of_read? (h : f.read? column text = some op) : op.operator ∈ f.operators := by
  cases f with
  | constant =>
      simp only [read?] at h
      grind [operators, Operation.operator]
  | now =>
      simp only [read?] at h
      grind [operators, Operation.operator]
  | compare c =>
      simp only [read?, Option.bind_eq_bind, Option.bind_eq_some_iff, Option.some.injEq] at h
      obtain ⟨raw, -, o, -, rfl⟩ := h
      exact List.mem_singleton_self _
  | member m =>
      obtain ⟨henum, inner, rfl⟩ := text_of_read?_member h
      rw [read?_member henum] at h
      obtain rfl := Option.some.inj h
      exact List.mem_singleton_self _

/-- No operation is read by two forms. -/
theorem eq_of_read?_eq_some {column' : Column} {text' : List Char}
    (hf : f.read? column text = some op) (hg : g.read? column' text' = some op) : f = g :=
  eq_of_mem_operators f f.mem_all g g.mem_all _ (operator_mem_of_read? hf)
    (operator_mem_of_read? hg)

end Form

/-! ## The form that decides -/

theorem mem_front_of_idxOf_lt {front back : List Form} (hf : f ∉ front)
    (h : (front ++ f :: back).idxOf g < (front ++ f :: back).idxOf f) : g ∈ front := by
  by_contra hg
  rw [List.idxOf_append_of_notMem hf, List.idxOf_append_of_notMem hg, List.idxOf_cons_self] at h
  omega

/-- What is read is read by a form before which no other one reads the text. -/
theorem exists_first_of_readForms? (h : readForms? forms column text = some op) :
    ∃ f, f.read? column text = some op ∧
      ∀ g, forms.idxOf g < forms.idxOf f → g.read? column text = none := by
  obtain ⟨front, f, back, rfl, hf, hfront⟩ := List.findSome?_eq_some_iff.1 h
  have hnot : f ∉ front := by
    intro hmem
    cases (hfront f hmem).symm.trans hf
  exact ⟨f, hf, fun g hg => hfront g (mem_front_of_idxOf_lt hnot hg)⟩

/-- With the precedence kept, the form that decides can be told without the order of the others: it
reads the text and no form that precedes it does. -/
theorem readForms?_eq_some_iff_exists (hall : ∀ f, f ∈ forms) (hkeep : Form.KeepsPrecedence forms) :
    readForms? forms column text = some op ↔ ∃ f : Form, f.read? column text = some op ∧
      ∀ g, (g, f) ∈ Form.precedence → g.read? column text = none := by
  constructor
  · intro h
    obtain ⟨f, hf, hfirst⟩ := exists_first_of_readForms? h
    exact ⟨f, hf, fun g hg => hfirst g (hkeep (g, f) hg)⟩
  · rintro ⟨f, hf, hnone⟩
    have hsome : (readForms? forms column text).isSome = true :=
      List.findSome?_isSome_iff.2 ⟨f, hall f, by rw [hf, Option.isSome_some]⟩
    obtain ⟨op', hop'⟩ := Option.isSome_iff_exists.1 hsome
    obtain ⟨f', hf', hfirst⟩ := exists_first_of_readForms? hop'
    -- the first form that reads the text is `f`, as another one would stand in a pair with it
    by_cases hne : f = f'
    · subst hne
      rw [hop', ← hf', hf]
    · rcases Form.precedence_of_read? hne (Option.isSome_of_eq_some hf)
          (Option.isSome_of_eq_some hf') with hp | hp
      · cases (hfirst f (hkeep _ hp)).symm.trans hf
      · cases (hnone f' hp).symm.trans hf'

theorem readForms?_eq_of_keepsPrecedence (hall : ∀ f, f ∈ forms)
    (hkeep : Form.KeepsPrecedence forms) :
    readForms? forms column text = readForms? Form.all column text := by
  have hkeepAll : Form.KeepsPrecedence Form.all := by decide
  refine Option.ext fun op => ?_
  rw [readForms?_eq_some_iff_exists hall hkeep,
    readForms?_eq_some_iff_exists Form.mem_all hkeepAll]

/-! ## Orders that read alike -/

theorem readForms?_of_parseWith {fragment : String} (hand : column.name ≠ "and")
    (hsplit : splitFragment? fragment.toList = some (column.name.toList, text))
    (h : parseWith forms column fragment = some ⟨column.name, op⟩) :
    readForms? forms column text = some op := by
  simp only [parseWith, readOperation?, hsplit, Option.bind_eq_bind, Option.bind_some,
    if_neg (toList_ne_groupKey hand), if_true, Option.bind_eq_some_iff] at h
  obtain ⟨op', hread, h⟩ := h
  split at h
  · cases h
    exact hread
  · cases h

/-- Each pair meets in a fragment that is accepted as the operation of the first of the two. -/
theorem exists_parse_of_mem_precedence (h : (f, g) ∈ Form.precedence) :
    ∃ (column : Column) (fragment : String) (text : List Char) (op : Operation),
      column.name ≠ "and" ∧ splitFragment? fragment.toList = some (column.name.toList, text) ∧
        parse column fragment = some ⟨column.name, op⟩ ∧ f.read? column text = some op ∧
          (g.read? column text).isSome = true := by
  let name : Column := ⟨"name", .text, [], by decide, by decide⟩
  let born : Column := ⟨"born", .date, [], by decide, by decide⟩
  simp only [Form.precedence, List.mem_cons, Prod.mk.injEq, List.not_mem_nil, or_false] at h
  rcases h with ⟨rfl, rfl⟩ | ⟨rfl, rfl⟩ | ⟨rfl, rfl⟩ | ⟨rfl, rfl⟩ | ⟨rfl, rfl⟩
  · exact ⟨name, "name=ilike.**", "ilike.**".toList, .compare .contains ⟨.text, ""⟩, by
      decide +kernel⟩
  · exact ⟨name, "name=ilike.**", "ilike.**".toList, .compare .contains ⟨.text, ""⟩, by
      decide +kernel⟩
  · exact ⟨name, "name=ilike.*", "ilike.*".toList, .compare .startsWith ⟨.text, ""⟩, by
      decide +kernel⟩
  · exact ⟨born, "born=lt.now", "lt.now".toList, .check .inPast, by decide +kernel⟩
  · exact ⟨born, "born=gt.now", "gt.now".toList, .check .inFuture, by decide +kernel⟩

theorem keepsPrecedence_of_parseWith_eq (hall : ∀ f, f ∈ forms)
    (h : ∀ column fragment, parseWith forms column fragment = parse column fragment) :
    Form.KeepsPrecedence forms := by
  rintro ⟨f, g⟩ hp
  obtain ⟨column, fragment, text, op, hand, hsplit, hparse, hf, hg⟩ :=
    exists_parse_of_mem_precedence hp
  obtain ⟨f', hf', hfirst⟩ := exists_first_of_readForms?
    (readForms?_of_parseWith hand hsplit ((h column fragment).trans hparse))
  -- only `f` reads this operation, so it is the first form to read the text
  obtain rfl := Form.eq_of_read?_eq_some hf hf'
  have hle : forms.idxOf f ≤ forms.idxOf g := by
    by_contra hlt
    rw [hfirst g (Nat.lt_of_not_le hlt)] at hg
    cases hg
  have hne : forms.idxOf f ≠ forms.idxOf g :=
    fun heq => Form.ne_of_mem_precedence _ hp ((List.idxOf_inj (hall f)).1 heq)
  exact Nat.lt_of_le_of_ne hle hne

/-- The forms may be tried in any order that keeps the precedence, and in no other: then, and only
then, every fragment is read as before for every column. Two forms that read one text for a column
always stand in one of these pairs. -/
theorem parseWith_eq_parse_iff (hperm : forms.Perm Form.all) :
    ((∀ column fragment, parseWith forms column fragment = parse column fragment) ↔
        Form.KeepsPrecedence forms) ∧
      ∀ (column : Column) (text : List Char) (f g : Form), f ≠ g →
        (f.read? column text).isSome = true → (g.read? column text).isSome = true →
          (f, g) ∈ Form.precedence ∨ (g, f) ∈ Form.precedence := by
  have hall : ∀ f, f ∈ forms := fun f => hperm.mem_iff.2 f.mem_all
  refine ⟨⟨keepsPrecedence_of_parseWith_eq hall, fun hkeep column fragment => ?_⟩,
    fun column text f g => Form.precedence_of_read?⟩
  simp only [parse, parseWith, readOperation?, readForms?_eq_of_keepsPrecedence hall hkeep]

/-- An order from the last forms to the first ones, but with the pairs kept, reads everything as
before. With two of the patterns exchanged it does not. -/
theorem parseWith_eq_parse_moved :
    let front : List Form := [.member .oneOf, .member .noneOf, .now, .compare .greaterThan,
      .compare .lesserThan, .compare .greaterOrEqual, .compare .lesserOrEqual, .compare .contains]
    let back : List Form := [.compare .equals, .constant]
    let kept := front ++ [.compare .startsWith, .compare .endsWith] ++ back
    let swapped := front ++ [.compare .endsWith, .compare .startsWith] ++ back
    (kept.Perm Form.all ∧ ∀ column fragment, parseWith kept column fragment = parse column fragment) ∧
      swapped.Perm Form.all ∧
        ∃ column fragment, parseWith swapped column fragment ≠ parse column fragment := by
  intro front back kept swapped
  have hkept : kept.Perm Form.all := by decide
  have hswapped : swapped.Perm Form.all := by decide
  have hnot : ¬Form.KeepsPrecedence swapped := by decide
  refine ⟨⟨hkept, (parseWith_eq_parse_iff hkept).1.2 (by decide)⟩, hswapped, ?_⟩
  by_contra hsame
  simp only [not_exists, ne_eq, not_not] at hsame
  exact hnot ((parseWith_eq_parse_iff hswapped).1.1 hsame)

end RowFilter.Wire
