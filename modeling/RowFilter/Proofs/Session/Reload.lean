import RowFilter.Proofs.Session.Params
import RowFilter.Proofs.Wire.Reparse
import RowFilter.Proofs.Wire.Resolution

/-!
# Reloading a session

A query string is cut into exactly the fragments it was joined from, so a reload acts on each filter
alone. What one reload keeps, every further reload keeps as it is.
-/

namespace RowFilter

open RowFilter.Wire

namespace Session

variable {s : Session} {ignored : List String}

/-! ## Reading filter by filter -/

theorem toOption_readPiece (table : Table) (w : String) :
    (readPiece table w).toOption = parseIn table w := by
  unfold readPiece
  cases parseIn table w <;> rfl

/-- Every filter that was read was read by a column of the table. -/
theorem exists_parse_of_mem_ofQuery {table : Table} {query : String} {f : Filter}
    (h : f ∈ (ofQuery table ignored query).filters) :
    ∃ c ∈ table.columns, ∃ w, parse c w = some f := by
  obtain ⟨w, -, hw⟩ := List.mem_filterMap.1 h
  rw [toOption_readPiece] at hw
  obtain ⟨c, hc, hparse⟩ := exists_parse_of_parseIn hw
  exact ⟨c, hc, w, hparse⟩

theorem filters_ofQuery_queryString (s : Session) (ignored : List String) :
    (ofQuery s.table ignored s.queryString).filters =
      s.filters.flatMap fun f =>
        (f.fragments.filter (pieceKey · ∉ ignored)).filterMap (parseIn s.table) := by
  simp only [ofQuery, filterPieces, pieces_queryString, toOption_readPiece]
  rw [queryParams, List.filter_flatMap, List.filterMap_flatMap]

/-- The filter is written as one fragment that is not ignored and is read as the filter. -/
def Keeps (table : Table) (ignored : List String) (f : Filter) : Prop :=
  ∃ w, f.fragments = [w] ∧ parseIn table w = some f ∧ pieceKey w ∉ ignored

theorem ofQuery_queryString_of_keeps (h : ∀ f ∈ s.filters, Keeps s.table ignored f) :
    ofQuery s.table ignored s.queryString = s := by
  have hfilters : (ofQuery s.table ignored s.queryString).filters = s.filters := by
    rw [filters_ofQuery_queryString]
    calc _ = s.filters.flatMap fun f => [f] := List.flatMap_congr fun f hf => by
          obtain ⟨w, hw, hread, hkey⟩ := h f hf
          simp [hw, hread, hkey]
      _ = s.filters := List.flatMap_singleton' _
  obtain ⟨table, filters⟩ := s
  exact congrArg (Session.mk table) hfilters

theorem queryEvents_queryString_of_keeps (h : ∀ f ∈ s.filters, Keeps s.table ignored f) :
    queryEvents s.table ignored s.queryString = [] := by
  rw [queryEvents, List.filterMap_eq_nil_iff]
  intro w hw
  rw [filterPieces, pieces_queryString] at hw
  obtain ⟨f, hf, hwf⟩ := List.mem_flatMap.1 (List.mem_of_mem_filter hw)
  obtain ⟨w', hw', hread, -⟩ := h f hf
  rw [hw', List.mem_singleton] at hwf
  subst hwf
  rw [readPiece, hread]

/-- A session is rebuilt from its query string filter by filter: what each fragment alone is read as,
in order, without the fragments whose text before the equals sign is ignored. It is rebuilt as it was
if every filter is written as one fragment that is not ignored and is read as the filter. -/
theorem ofQuery_queryString (s : Session) (ignored : List String) :
    (ofQuery s.table ignored s.queryString).filters =
        s.filters.flatMap (fun f =>
          (f.fragments.filter fun w => String.ofList (w.toList.takeWhile (· ≠ '=')) ∉ ignored).filterMap
            (parseIn s.table)) ∧
      ((∀ f ∈ s.filters, ∃ w, f.fragments = [w] ∧ parseIn s.table w = some f ∧
          String.ofList (w.toList.takeWhile (· ≠ '=')) ∉ ignored) →
        ofQuery s.table ignored s.queryString = s ∧
          queryEvents s.table ignored s.queryString = []) :=
  ⟨filters_ofQuery_queryString s ignored, fun h =>
    ⟨ofQuery_queryString_of_keeps h, queryEvents_queryString_of_keeps h⟩⟩

/-- The filter on a column whose name is ignored is skipped, and then the rest is rebuilt. -/
theorem ofQuery_queryString_select :
    let ignored := ["limit", "select"]
    let select : Column := ⟨"select", .integer, [], by decide, by decide⟩
    let name : Column := ⟨"name", .text, [], by decide, by decide⟩
    let table : Table := ⟨"people", [select, name], by decide⟩
    let seven : Filter := ⟨"select", .compare .lesserThan ⟨.integer, "7"⟩⟩
    let marks : Filter := ⟨"name", .compare .contains ⟨.text, "&=?"⟩⟩
    parseIn table "select=lt.7" = some seven ∧
      (ofQuery table ignored (Session.mk table [seven, marks]).queryString).filters = [marks] ∧
      ofQuery table ignored (Session.mk table [marks]).queryString = ⟨table, [marks]⟩ ∧
      queryEvents table ignored (Session.mk table [marks]).queryString = [] := by
  intro ignored select name table seven marks
  have hseven : seven.fragments = ["select=lt.7"] := by decide +kernel
  have hmarks : marks.fragments = ["name=ilike.*%26%3D%3F*"] := by decide +kernel
  have hread : parseIn table "name=ilike.*%26%3D%3F*" = some marks := by decide +kernel
  have hskipped : ["select=lt.7"].filter
      (fun w => String.ofList (w.toList.takeWhile (· ≠ '=')) ∉ ignored) = [] := by decide
  have hkept : ["name=ilike.*%26%3D%3F*"].filter
      (fun w => String.ofList (w.toList.takeWhile (· ≠ '=')) ∉ ignored) =
        ["name=ilike.*%26%3D%3F*"] := by decide
  refine ⟨by decide +kernel, ?_, (ofQuery_queryString ⟨table, [marks]⟩ ignored).2 ?_⟩
  · rw [(ofQuery_queryString ⟨table, [seven, marks]⟩ ignored).1]
    simp only [List.flatMap_cons, List.flatMap_nil, hseven, hmarks, hskipped, hkept,
      List.filterMap_nil, List.filterMap_cons_some hread, List.nil_append, List.append_nil]
  · intro f hf
    obtain rfl := List.mem_singleton.1 hf
    exact ⟨_, hmarks, hread, by decide⟩

/-! ## Reloading again -/

theorem pieceKey_spelled {w : String} {key value : List Char}
    (hw : w.toList = Percent.encode key ++ '=' :: value) :
    pieceKey w = String.ofList (Percent.encode key) := by
  have heq : '=' ∉ Percent.encode key := fun h => absurd ((Spelled.encode key).safe _ h) (by decide)
  rw [pieceKey, hw, takeWhile_append_cons heq]

theorem pieceKey_of_parse_write {f g : Filter} {column : Column} {w w' : String}
    (hw : f.write = .ok w) (h : parse column w = some g) (hw' : g.write = .ok w') :
    pieceKey w' = pieceKey w := by
  obtain ⟨key, text, hsplit, hread, -, hcolumn⟩ := parse_eq_some_iff.1 h
  obtain ⟨-, value, hvalue⟩ := Filter.plain?_of_splitFragment? hw hsplit
  obtain ⟨text', hplain⟩ := exists_plain_of_readPlain? hread
  obtain ⟨key', value', text'', hplain', hvalue', -⟩ := Filter.write_spelled hw'
  rw [hcolumn, hplain] at hplain'
  obtain ⟨rfl, -⟩ := Prod.mk.inj (Option.some.inj hplain')
  rw [pieceKey_spelled hvalue, pieceKey_spelled hvalue']

/-- What a written fragment is read as is kept as it is. -/
theorem keeps_of_parseIn_write {table : Table} {ignored : List String}
    (htable : ∀ column ∈ table.columns, ∀ c ∈ column.name.toList, c ≠ '"' ∧ c ≠ '(')
    {f g : Filter} {w : String} (hw : f.write = .ok w) (hkey : pieceKey w ∉ ignored)
    (h : parseIn table w = some g) : Keeps table ignored g := by
  obtain ⟨column, hmem, hparse⟩ := exists_parse_of_parseIn h
  obtain ⟨w', hw', hback⟩ := Filter.readsBack_of_parse_write (htable column hmem) hw hparse
  refine ⟨w', hw', parseIn_of_parse hmem hback, ?_⟩
  rw [pieceKey_of_parse_write hw hparse (Filter.fragments_eq_singleton_iff.1 hw')]
  exact hkey

theorem keeps_of_mem_reload
    (htable : ∀ column ∈ s.table.columns, ∀ c ∈ column.name.toList, c ≠ '"' ∧ c ≠ '(')
    {g : Filter} (hg : g ∈ s.reload.filters) :
    Keeps s.table SearchSettings.defaultIgnored g := by
  rw [reload, filters_ofQuery_queryString] at hg
  obtain ⟨f, -, hg⟩ := List.mem_flatMap.1 hg
  obtain ⟨w, hw, hread⟩ := List.mem_filterMap.1 hg
  obtain ⟨hwf, hkey⟩ := List.mem_filter.1 hw
  exact keeps_of_parseIn_write htable (Filter.mem_fragments.1 hwf) (of_decide_eq_true hkey) hread

theorem reload_reload (s : Session)
    (htable : ∀ column ∈ s.table.columns, ∀ c ∈ column.name.toList, c ≠ '"' ∧ c ≠ '(') :
    s.reload.reload = s.reload ∧ s.reload.reload.queryString = s.reload.queryString := by
  have hreload : s.reload.reload = s.reload :=
    ofQuery_queryString_of_keeps fun g hg => keeps_of_mem_reload htable hg
  exact ⟨hreload, congrArg queryString hreload⟩

/-- A first reload may well change a session: here a wildcard is taken for another pattern and a
range is put in order. -/
theorem reload_reload_people :
    let age : Column := ⟨"age", .integer, [], by decide, by decide⟩
    let name : Column := ⟨"name", .text, [], by decide, by decide⟩
    let s : Session := ⟨⟨"people", [age, name], by decide⟩,
      [⟨"name", .compare .startsWith ⟨.text, "*x"⟩⟩, ⟨"age", .between ⟨.integer, "9"⟩ ⟨.integer, "7"⟩⟩]⟩
    (∀ column ∈ s.table.columns, ∀ c ∈ column.name.toList, c ≠ '"' ∧ c ≠ '(') ∧ s.reload ≠ s ∧
      s.reload.reload = s.reload ∧ s.reload.reload.queryString = s.reload.queryString := by
  intro age name s
  have htable : ∀ column ∈ s.table.columns, ∀ c ∈ column.name.toList, c ≠ '"' ∧ c ≠ '(' := by
    simp [s, age, name]
  exact ⟨htable, by decide +kernel, reload_reload s htable⟩

end Session

end RowFilter
