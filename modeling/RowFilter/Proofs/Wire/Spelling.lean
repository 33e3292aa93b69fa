import RowFilter.Proofs.Wire.Written

/-!
# Spellings of a fragment

All that is read from a fragment is read from its decoded key and value. So it makes no difference
whether a text without percent signs is written as it is or with its characters encoded, those that
structure it included.
-/

namespace RowFilter.Wire

variable {s t : String} {key value : List Char}

/-! ## What a fragment is read from -/

theorem parse_congr (h : splitFragment? s.toList = splitFragment? t.toList) (column : Column) :
    parse column s = parse column t := by
  simp only [parse, parseWith, readOperation?, h]

theorem fragmentColumn?_congr (h : splitFragment? s.toList = splitFragment? t.toList) :
    fragmentColumn? s = fragmentColumn? t := by
  simp only [fragmentColumn?, h]

theorem parseIn_congr (h : splitFragment? s.toList = splitFragment? t.toList) (table : Table) :
    parseIn table s = parseIn table t := by
  simp only [parseIn, fragmentColumn?_congr h, parse_congr h]

/-! ## Encoded fragments -/

theorem splitFragment?_plain (hkey : '%' ∉ key) (heq : '=' ∉ key) (hvalue : '%' ∉ value) :
    splitFragment? (key ++ '=' :: value) = if key = [] then none else some (key, value) := by
  rw [splitFragment?_append heq, (Percent.Spells.plain hkey).decode_eq,
    (Percent.Spells.plain hvalue).decode_eq]

/-- The fragment that gives a value to a key, both percent-encoded. -/
def encodedFragment (key value : String) : String :=
  String.ofList (Percent.encode key.toList ++ '=' :: Percent.encode value.toList)

theorem splitFragment?_encodedFragment {key value : String} (hkey : '%' ∉ key.toList)
    (heq : '=' ∉ key.toList) (hvalue : '%' ∉ value.toList) :
    splitFragment? (key ++ "=" ++ value).toList =
      splitFragment? (encodedFragment key value).toList := by
  have hplain : (key ++ "=" ++ value).toList = key.toList ++ '=' :: value.toList := by
    rw [String.toList_append, String.toList_append, List.append_assoc]
    rfl
  rw [hplain, splitFragment?_plain hkey heq hvalue, encodedFragment, String.toList_ofList,
    splitFragment?_spelled key.toList (.encode value.toList)]

/-- A fragment of a key and a value without percent signs names the same column as the one that has
both encoded, and is read as the same filter for every column and for every table. -/
theorem parse_encodedFragment {key value : String} (hkey : '%' ∉ key.toList)
    (heq : '=' ∉ key.toList) (hvalue : '%' ∉ value.toList) :
    (∀ column, parse column (key ++ "=" ++ value) = parse column (encodedFragment key value)) ∧
      fragmentColumn? (key ++ "=" ++ value) = fragmentColumn? (encodedFragment key value) ∧
      ∀ table, parseIn table (key ++ "=" ++ value) = parseIn table (encodedFragment key value) := by
  have hsplit := splitFragment?_encodedFragment hkey heq hvalue
  exact ⟨parse_congr hsplit, fragmentColumn?_congr hsplit, parseIn_congr hsplit⟩

/-- A whole group behind percent signs, its parentheses, commas and points included. -/
theorem parse_encodedFragment_group :
    let column : Column := ⟨"größe", .integer, [], by decide, by decide⟩
    let value := "(größe.gte.7,größe.lte.12)"
    let f : Filter := ⟨"größe", .between ⟨.integer, "7"⟩ ⟨.integer, "12"⟩⟩
    ('%' ∉ "and".toList ∧ '=' ∉ "and".toList ∧ '%' ∉ value.toList) ∧
      encodedFragment "and" value =
        "and=%28gr%C3%B6%C3%9Fe.gte.7%2Cgr%C3%B6%C3%9Fe.lte.12%29" ∧
      parse column (encodedFragment "and" value) = some f := by
  intro column value f
  have hkey : '%' ∉ "and".toList := by decide
  have heq : '=' ∉ "and".toList := by decide
  have hvalue : '%' ∉ value.toList := by decide
  have hplain : parse column ("and" ++ "=" ++ value) = some f := by decide +kernel
  have h := (parse_encodedFragment hkey heq hvalue).1 column
  exact ⟨⟨hkey, heq, hvalue⟩, by decide +kernel, h.symm.trans hplain⟩

end RowFilter.Wire
