import Mathlib.Data.List.Forall2
import RowFilter.Proofs.Session.Reload

/-!
# Sessions that were read

Every filter that was read from a query string is in the form in which filters are read, so the
session is written with one fragment for each filter and nothing to report.
-/

namespace RowFilter

open RowFilter.Wire

theorem Filter.forall₂_fragments {fs : List Filter} (h : ∀ f ∈ fs, ∃ w, f.fragments = [w]) :
    List.Forall₂ (fun f w => f.fragments = [w]) fs (fs.flatMap fragments) := by
  induction fs with
  | nil => exact .nil
  | cons f fs ih =>
      obtain ⟨⟨w, hw⟩, hfs⟩ := List.forall_mem_cons.1 h
      rw [List.flatMap_cons, hw]
      exact .cons hw (ih hfs)

namespace Session

theorem exists_isCanonical_of_mem_ofQuery {table : Table} {ignored : List String} {query : String}
    {f : Filter} (h : f ∈ (ofQuery table ignored query).filters) :
    ∃ column, table.column? f.column = some column ∧ f.operation.IsCanonical column := by
  obtain ⟨column, hcolumn, w, hparse⟩ := exists_parse_of_mem_ofQuery h
  obtain ⟨-, -, -, -, -, hname⟩ := parse_eq_some_iff.1 hparse
  exact ⟨column, Table.column?_eq_some_iff.2 ⟨hcolumn, hname.symm⟩, isCanonical_of_parse hparse⟩

/-- Every filter that was read from a query string is canonical for its column. So the session has
one fragment for each filter, in order, and writing it reports nothing. -/
theorem isCanonical_ofQuery (table : Table) (ignored : List String) (query : String) :
    (∀ f ∈ (ofQuery table ignored query).filters,
        ∃ column, table.column? f.column = some column ∧ f.operation.IsCanonical column) ∧
      List.Forall₂ (fun f w => f.fragments = [w]) (ofQuery table ignored query).filters
        (ofQuery table ignored query).queryParams ∧
      (ofQuery table ignored query).writeEvents = [] := by
  have hfragment : ∀ f ∈ (ofQuery table ignored query).filters, ∃ w, f.fragments = [w] := by
    intro f hf
    obtain ⟨column, -, hcanonical⟩ := exists_isCanonical_of_mem_ofQuery hf
    exact Filter.exists_fragment_of_isCanonical hcanonical
  refine ⟨fun f hf => exists_isCanonical_of_mem_ofQuery hf, Filter.forall₂_fragments hfragment, ?_⟩
  refine List.flatMap_eq_nil_iff.2 fun f hf => ?_
  obtain ⟨w, hw⟩ := hfragment f hf
  exact Filter.writeEvents_of_fragments_ne_nil (by simp [hw])

/-- Bounds in the wrong order, a day given by its bounds and a pattern with its wildcard in front. -/
theorem isCanonical_ofQuery_log :
    let level : Column := ⟨"level", .integer, [], by decide, by decide⟩
    let made : Column := ⟨"made", .time, [], by decide, by decide⟩
    let text : Column := ⟨"text", .text, [], by decide, by decide⟩
    let table : Table := ⟨"log", [level, made, text], by decide⟩
    let query := "and=(level.gte.9,level.lte.7)&text=ilike.**a" ++
      "&and=(made.gte.2024-02-29T00:00,made.lt.2024-03-01T00:00)"
    let fs : List Filter := [⟨"level", .between ⟨.integer, "7"⟩ ⟨.integer, "9"⟩⟩,
      ⟨"text", .compare .endsWith ⟨.text, "*a"⟩⟩, ⟨"made", .inDate ⟨.date, "2024-02-29"⟩⟩]
    (ofQuery table [] query).filters = fs ∧
      (Operation.between ⟨.integer, "7"⟩ ⟨.integer, "9"⟩).IsCanonical level ∧
      List.Forall₂ (fun f w => f.fragments = [w]) fs (ofQuery table [] query).queryParams := by
  intro level made text table query fs
  have hfilters : (ofQuery table [] query).filters = fs := by decide +kernel
  obtain ⟨hcanonical, hparams, -⟩ := isCanonical_ofQuery table [] query
  rw [hfilters] at hcanonical hparams
  obtain ⟨column, hcolumn, hrange⟩ := hcanonical _ (List.mem_cons_self ..)
  obtain rfl : level = column := Option.some.inj hcolumn
  exact ⟨hfilters, hrange, hparams⟩

end Session

end RowFilter
