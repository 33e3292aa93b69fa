import RowFilter.Proofs.Table
import RowFilter.Proofs.Wire.ReadBack

/-!
# Reading against a table

A fragment is read against the column that it names. As a column only reads fragments that name it,
this finds whatever any column of the table would read, and no fragment is read by two of them.
-/

namespace RowFilter.Wire

variable {table : Table} {fragment : String} {c d : Column} {f g : Filter}

theorem parseIn_of_fragmentColumn? (hc : c ∈ table.columns)
    (h : fragmentColumn? fragment = some c.name) : parseIn table fragment = parse c fragment := by
  have hcolumn : table.column? c.name = some c := Table.column?_eq_some_iff.2 ⟨hc, rfl⟩
  simp only [parseIn, h, hcolumn, Option.bind_eq_bind, Option.bind_some]

theorem exists_parse_of_parseIn (h : parseIn table fragment = some f) :
    ∃ c ∈ table.columns, parse c fragment = some f := by
  simp only [parseIn, Option.bind_eq_bind, Option.bind_eq_some_iff] at h
  obtain ⟨name, -, c, hcolumn, hparse⟩ := h
  exact ⟨c, (Table.mem_of_column? hcolumn).1, hparse⟩

theorem parseIn_of_parse (hc : c ∈ table.columns) (h : parse c fragment = some f) :
    parseIn table fragment = some f := by
  rwa [parseIn_of_fragmentColumn? hc (fragmentColumn?_of_parse h)]

/-- Two columns that read a fragment both have the name that it gives. -/
theorem eq_of_parse (hc : c ∈ table.columns) (hd : d ∈ table.columns)
    (hf : parse c fragment = some f) (hg : parse d fragment = some g) : c = d := by
  have hname : some c.name = some d.name :=
    (fragmentColumn?_of_parse hf).symm.trans (fragmentColumn?_of_parse hg)
  exact Table.eq_of_name_eq hc hd (Option.some.inj hname)

/-- A table reads exactly what one of its columns reads. This column is the one that the fragment
names, and no other column of the table reads the fragment. -/
theorem parseIn_iff_exists_parse (table : Table) (fragment : String) :
    (∀ f, parseIn table fragment = some f ↔ ∃ c ∈ table.columns, parse c fragment = some f) ∧
      ∀ c ∈ table.columns, ∀ f, parse c fragment = some f →
        fragmentColumn? fragment = some c.name ∧
          ∀ d ∈ table.columns, ∀ g, parse d fragment = some g → d = c := by
  refine ⟨fun f => ⟨exists_parse_of_parseIn, ?_⟩, ?_⟩
  · rintro ⟨c, hc, hparse⟩
    exact parseIn_of_parse hc hparse
  · intro c hc f hparse
    exact ⟨fragmentColumn?_of_parse hparse, fun d hd g hg => eq_of_parse hd hc hg hparse⟩

/-- A column may have the name that announces a group; a group then names it in its legs. -/
theorem parseIn_iff_exists_parse_and :
    let group : Column := ⟨"and", .integer, [], by decide, by decide⟩
    let table : Table := ⟨"t", [⟨"age", .integer, [], by decide, by decide⟩, group], by decide⟩
    let fragment := "and=(and.lte.9,and.gte.7)"
    let f : Filter := ⟨"and", .between ⟨.integer, "7"⟩ ⟨.integer, "9"⟩⟩
    group ∈ table.columns ∧ parse group fragment = some f ∧ parseIn table fragment = some f ∧
      fragmentColumn? fragment = some "and" ∧
        ∀ d ∈ table.columns, ∀ g, parse d fragment = some g → d = group := by
  intro group table fragment f
  obtain ⟨hread, hcolumn⟩ := parseIn_iff_exists_parse table fragment
  have hgroup : group ∈ table.columns := List.mem_cons_of_mem _ (List.mem_cons_self ..)
  have hparse : parse group fragment = some f := by decide +kernel
  exact ⟨hgroup, hparse, (hread f).2 ⟨group, hgroup, hparse⟩, hcolumn group hgroup f hparse⟩

end RowFilter.Wire
