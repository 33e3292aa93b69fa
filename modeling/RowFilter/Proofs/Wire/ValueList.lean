import RowFilter.Proofs.Wire.Written

/-!
# Lists of values

A list of values is written in parentheses, each value quoted where its text would not stand as one
item. It is read as exactly these values, whatever their texts are.
-/

namespace RowFilter.Wire

/-- A list of values as it stands in a fragment. -/
def listText (vs : List String) : List Char :=
  '(' :: [','].intercalate (vs.map (encodeValue .nested)) ++ [')']

/-- The values of a list in parentheses, without percent encoding. -/
def listValues? (text : List Char) : Option (List String) :=
  (TopLevel.unwrapParens? text).map fun inner =>
    (TopLevel.split [','] inner).map fun item => String.ofList (Quoted.decode item)

/-! ## Memberships -/

/-- The choices of a membership are read as a list of values. -/
theorem read?_member_eq {column : Column} (henum : column.kind = .enum) (m : Membership)
    (text : List Char) : (Form.member m).read? column (m.word ++ '.' :: text) =
      (listValues? text).map fun vs => .member m (.ofKnown column.choices vs) := by
  have hvalue : value? m.word (m.word ++ '.' :: text) = some text := value?_eq_some_iff.2 rfl
  simp only [Form.read?, henum, if_true, hvalue, Option.bind_eq_bind, Option.bind_some, listValues?,
    Option.map_map]
  exact Option.map_eq_bind.symm

/-! ## Reading a list back -/

theorem map_decode_items (vs : List String) :
    (TopLevel.split [','] ([','].intercalate (vs.map fun v => Quoted.encode .nested v.toList))).map
      (fun item => String.ofList (Quoted.decode item)) = vs := by
  have hitems := congrArg (List.map String.ofList)
    (TopLevel.map_decode_split_encode (vs.map String.toList))
  simpa [List.map_map, Function.comp_def] using hitems

theorem decode_listText (vs : List String) : Percent.decode (listText vs) =
    '(' :: [','].intercalate (vs.map fun v => Quoted.encode .nested v.toList) ++ [')'] := by
  have hclose : Spelled [')'] [')'] := .plain rfl
  exact (Spelled.append (.cons rfl (.intercalate vs)) hclose).spells.decode_eq

theorem listValues?_eq_some (vs : List String) :
    listValues? (Percent.decode (listText vs)) = some vs := by
  rw [decode_listText, listValues?, TopLevel.unwrapParens?_eq_some_iff.2 rfl, Option.map_some,
    map_decode_items]

/-- A list that was written is read as the same values in the same order, and a membership of a column
of choices is read with exactly these. -/
theorem listValues?_decode_listText (vs : List String) :
    listValues? (Percent.decode (listText vs)) = some vs ∧
      ∀ (column : Column) (m : Membership), column.kind = .enum →
        (Form.member m).read? column (m.word ++ '.' :: Percent.decode (listText vs)) =
          some (.member m (.ofKnown column.choices vs)) := by
  refine ⟨listValues?_eq_some vs, fun column m henum => ?_⟩
  rw [read?_member_eq henum, listValues?_eq_some, Option.map_some]

/-- Marks of the list, a lone quote, a backslash at the end, blanks and an empty text are items like
any others; no item and an empty item are different lists. -/
theorem listValues?_decode_listText_marks :
    let column : Column := ⟨"kind", .enum, ["a", ""], by decide, by decide⟩
    let vs := ["", "a", "),(", "\"", "b\\", " é "]
    column.kind = .enum ∧ listValues? (Percent.decode (listText vs)) = some vs ∧
      listText [] = "()".toList ∧ listText [""] = "(%22%22)".toList ∧
      (Form.member .noneOf).read? column ("not.in.".toList ++ Percent.decode (listText vs)) =
        some (.member .noneOf ⟨["a", ""], ["a", ""], by decide⟩) := by
  intro column vs
  obtain ⟨hvalues, hmember⟩ := listValues?_decode_listText vs
  refine ⟨rfl, hvalues, by decide, by decide, ?_⟩
  have hchoices : ChoiceSet.ofKnown column.choices vs = ⟨["a", ""], ["a", ""], by decide⟩ := by
    decide
  rw [← hchoices]
  exact hmember column .noneOf rfl

end RowFilter.Wire
