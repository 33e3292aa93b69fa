import Mathlib.Data.List.Basic
import RowFilter.Proofs.Text.Blank
import RowFilter.Settings

/-!
# Values of settings

`SettingType.Coerces` says which value a text stands for and `SettingType.Refuses` why it stands for
none. Each text has exactly one of the two: it is the text itself, an answer to yes or no, a number,
or the items between its commas.
-/

namespace RowFilter

open RowFilter.Number RowFilter.Text

namespace SettingType

/-! ## Items -/

/-- What a part between commas adds to the items: the part without the blanks at its ends, or nothing
if it has nothing else. -/
inductive Item (part : List Char) : List String → Prop
  | blank : Trims part [] → Item part []
  | text {item : String} : Trims part item.toList → item ≠ "" → Item part [item]

/-- The items of a text, part by part. -/
inductive Items : List Char → List String → Prop
  | last {part items} : ',' ∉ part → Item part items → Items part items
  | cons {part rest item items} : ',' ∉ part → Item part item → Items rest items →
      Items (part ++ ',' :: rest) (item ++ items)

theorem exists_item (part : List Char) : ∃ item, Item part item := by
  cases h : trim part with
  | nil => exact ⟨_, .blank (h ▸ trims_trim part)⟩
  | cons c rest =>
      refine ⟨[String.ofList (c :: rest)], .text ?_ (by simp)⟩
      rw [String.toList_ofList, ← h]
      exact trims_trim part

theorem exists_items (text : List Char) : ∃ items, Items text items := by
  -- on the length, as a whole part goes with the first comma
  induction h : text.length using Nat.strongRecOn generalizing text with
  | ind n ih =>
      subst h
      by_cases hcomma : ',' ∈ text
      · obtain ⟨part, rest, rfl, hpart⟩ := List.eq_append_cons_of_mem hcomma
        obtain ⟨item, hitem⟩ := exists_item part
        obtain ⟨items, hitems⟩ := ih rest.length (by simp; omega) rest rfl
        exact ⟨item ++ items, .cons hpart hitem hitems⟩
      · obtain ⟨item, hitem⟩ := exists_item text
        exact ⟨item, .last hcomma hitem⟩

theorem Item.eq {part : List Char} {item : List String} (h : Item part item) :
    (([part].map trim).filter (· ≠ [])).map String.ofList = item := by
  cases h with
  | blank hpart => simp [hpart.trim_eq]
  | text hpart hne => simp [hpart.trim_eq, hne]

theorem Items.eq {text : List Char} {items : List String} (h : Items text items) :
    (((text.splitOn ',').map trim).filter (· ≠ [])).map String.ofList = items := by
  induction h with
  | last hpart hitem => rw [List.splitOn_eq_singleton hpart, hitem.eq]
  | cons hpart hitem _ ih =>
      rw [List.splitOn_append_cons_self_of_not_mem hpart, ← List.singleton_append, List.map_append,
        List.filter_append, List.map_append, hitem.eq, ih]

/-! ## Yes and no -/

/-- The text is one of the words for yes, in any case and between any blanks. -/
def SaysYes (raw : String) : Prop :=
  ∃ word, Trims raw.toList word ∧ String.ofList (lower word) ∈ ["1", "true", "yes", "on"]

theorem saysYes_iff {raw : String} :
    SaysYes raw ↔ String.ofList (lower (trim raw.toList)) ∈ trueWords := by
  constructor
  · rintro ⟨word, hword, hmem⟩
    rwa [hword.trim_eq]
  · intro hmem
    exact ⟨_, trims_trim raw.toList, hmem⟩

/-! ## Values -/

variable {t : SettingType} {raw : String} {v : SettingValue} {c : Cause}

/-- The value that a text stands for. Numbers are read as they are in operands. -/
inductive Coerces (raw : String) : SettingType → SettingValue → Prop
  | text : Coerces raw .text (.text raw)
  | integer {n} : readInteger raw.toList = .ok n → Coerces raw .integer (.integer n)
  | float {x} : readDecimal? raw.toList = some x → Coerces raw .float (.float x)
  | yes : SaysYes raw → Coerces raw .bool (.bool true)
  | no : ¬SaysYes raw → Coerces raw .bool (.bool false)
  | list {items} : Items raw.toList items → Coerces raw .list (.list items)
  | tuple {items} : Items raw.toList items → Coerces raw .tuple (.tuple items)
  | bareList : Coerces raw .bareList (.text raw)
  | bareTuple : Coerces raw .bareTuple (.text raw)

/-- Why a text has no value: it does not read as a number. -/
inductive Refuses (raw : String) : SettingType → Cause → Prop
  | integer {e} : readInteger raw.toList = .error e → Refuses raw .integer (integerCause raw e)
  | float : readDecimal? raw.toList = none →
      Refuses raw .float (.badValue ("could not convert string to float: " ++ literal raw))

theorem coerces_or_refuses (t : SettingType) (raw : String) :
    (∃ v, t.Coerces raw v) ∨ ∃ c, t.Refuses raw c := by
  cases t with
  | text => exact .inl ⟨_, .text⟩
  | integer =>
      cases h : readInteger raw.toList with
      | ok n => exact .inl ⟨_, .integer h⟩
      | error e => exact .inr ⟨_, .integer h⟩
  | float =>
      cases h : readDecimal? raw.toList with
      | some x => exact .inl ⟨_, .float h⟩
      | none => exact .inr ⟨_, .float h⟩
  | bool =>
      by_cases h : SaysYes raw
      · exact .inl ⟨_, .yes h⟩
      · exact .inl ⟨_, .no h⟩
  | list =>
      obtain ⟨items, h⟩ := exists_items raw.toList
      exact .inl ⟨_, .list h⟩
  | tuple =>
      obtain ⟨items, h⟩ := exists_items raw.toList
      exact .inl ⟨_, .tuple h⟩
  | bareList => exact .inl ⟨_, .bareList⟩
  | bareTuple => exact .inl ⟨_, .bareTuple⟩

theorem coerce_of_coerces (h : t.Coerces raw v) : t.coerce raw = .ok v := by
  cases h with
  | text | bareList | bareTuple => rfl
  | integer h => simp only [coerce, h, Except.map, Except.mapError]
  | float h => simp only [coerce, h]
  | yes h => simp only [coerce, saysYes_iff.1 h, decide_true]
  | no h => simp only [coerce, mt saysYes_iff.2 h, decide_false]
  | list h | tuple h => simp only [coerce, items, h.eq]

theorem coerce_of_refuses (h : t.Refuses raw c) : t.coerce raw = .error c := by
  cases h with
  | integer h => simp only [coerce, h, Except.map, Except.mapError]
  | float h => simp only [coerce, h]

theorem coerces_iff : t.Coerces raw v ↔ t.coerce raw = .ok v := by
  constructor
  · exact coerce_of_coerces
  · intro h
    rcases t.coerces_or_refuses raw with ⟨w, hw⟩ | ⟨c, hc⟩
    · cases h.symm.trans (coerce_of_coerces hw)
      exact hw
    · cases h.symm.trans (coerce_of_refuses hc)

theorem refuses_iff : t.Refuses raw c ↔ t.coerce raw = .error c := by
  constructor
  · exact coerce_of_refuses
  · intro h
    rcases t.coerces_or_refuses raw with ⟨v, hv⟩ | ⟨d, hd⟩
    · cases h.symm.trans (coerce_of_coerces hv)
    · cases h.symm.trans (coerce_of_refuses hd)
      exact hd

theorem Refuses.exists_badValue (h : t.Refuses raw c) : ∃ message, c = .badValue message := by
  cases h with
  | @integer e => cases e <;> exact ⟨_, rfl⟩
  | float => exact ⟨_, rfl⟩

end SettingType

end RowFilter
