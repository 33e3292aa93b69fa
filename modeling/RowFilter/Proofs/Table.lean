import Mathlib.Data.List.Nodup
import RowFilter.Column

/-!
# Looking columns up

The names of the columns of a table differ, so a look-up finds a column exactly if it is the column
of the table with the name. A list in which two columns share a name makes no table, and the refusal
names the first column whose name stood before.
-/

namespace RowFilter.Table

variable {table : Table} {name : String} {c d : Column}

theorem eq_of_name_eq (hc : c ∈ table.columns) (hd : d ∈ table.columns) (h : c.name = d.name) :
    c = d :=
  List.inj_on_of_nodup_map table.nodup hc hd h

theorem mem_of_column? (h : table.column? name = some c) : c ∈ table.columns ∧ c.name = name := by
  refine ⟨List.mem_of_find?_eq_some h, ?_⟩
  simpa using List.find?_some h

theorem column?_eq_none_iff : table.column? name = none ↔ ∀ c ∈ table.columns, c.name ≠ name := by
  simp [column?]

theorem column?_eq_some_iff : table.column? name = some c ↔ c ∈ table.columns ∧ c.name = name := by
  refine ⟨mem_of_column?, ?_⟩
  rintro ⟨hc, rfl⟩
  cases h : table.column? c.name with
  | none => exact absurd rfl (column?_eq_none_iff.1 h c hc)
  | some d =>
      obtain ⟨hd, hname⟩ := mem_of_column? h
      rw [eq_of_name_eq hd hc hname]

theorem column?_name (h : table.column? name = some c) : table.column? c.name = some c := by
  rwa [(mem_of_column? h).2]

theorem column?_of_firstColumn? (h : table.firstColumn? = some c) :
    table.column? c.name = some c :=
  column?_eq_some_iff.2 ⟨List.mem_of_head? h, rfl⟩

theorem contains_iff : table.contains name = true ↔ table.column? name ≠ none := by
  rw [contains, List.any_eq_true, Ne, column?_eq_none_iff]
  push Not
  simp only [decide_eq_true_eq]

/-- The column that is found is the only one with the name. -/
theorem filter_name_eq : table.columns.filter (·.name = name) = (table.column? name).toList := by
  have hcount : (table.columns.map Column.name).count name ≤ 1 :=
    List.nodup_iff_count_le_one.1 table.nodup name
  have hlength : (table.columns.filter (·.name = name)).length ≤ 1 := by
    rw [List.count_eq_countP, List.countP_map, List.countP_eq_length_filter] at hcount
    exact hcount
  rw [column?, ← List.head?_filter]
  cases hfound : table.columns.filter (·.name = name) with
  | nil => rfl
  | cons c rest =>
      rw [hfound, List.length_cons] at hlength
      have hrest : rest = [] := List.eq_nil_of_length_eq_zero (by omega)
      rw [hrest]
      rfl

/-! ## Lists of columns -/

section Refused

variable {seen names : List String} {n : String} {columns : List Column} {e : SchemaError}

/-- No name of the list stands in it twice or was seen before. -/
def Fresh (seen names : List String) : Prop := names.Nodup ∧ ∀ n ∈ names, n ∉ seen

theorem fresh_nil : Fresh seen [] := ⟨List.nodup_nil, by simp⟩

theorem fresh_cons : Fresh seen (n :: names) ↔ n ∉ seen ∧ Fresh (n :: seen) names := by
  simp only [Fresh, List.nodup_cons, List.mem_cons, forall_eq_or_imp, not_or]
  constructor
  · rintro ⟨⟨hn, hnodup⟩, hns, hseen⟩
    refine ⟨hns, hnodup, fun m hm => ⟨?_, hseen m hm⟩⟩
    rintro rfl
    exact hn hm
  · rintro ⟨hns, hnodup, hseen⟩
    exact ⟨⟨fun hn => (hseen n hn).1 rfl, hnodup⟩, hns, fun m hm => (hseen m hm).2⟩

theorem firstRepeated?_eq_none_iff : firstRepeated? seen names = none ↔ Fresh seen names := by
  induction names generalizing seen with
  | nil => exact iff_of_true rfl fresh_nil
  | cons m rest ih =>
      rw [firstRepeated?, fresh_cons, ← ih]
      split <;> simp [*]

/-- The earliest name that stood before it follows names of which none did. -/
theorem firstRepeated?_eq_some_iff :
    firstRepeated? seen names = some n ↔
      ∃ front back, names = front ++ n :: back ∧ Fresh seen front ∧ (n ∈ seen ∨ n ∈ front) := by
  induction names generalizing seen with
  | nil => simp [firstRepeated?]
  | cons m rest ih =>
      rw [firstRepeated?]
      constructor
      · intro h
        split at h
        case isTrue hm =>
          cases h
          exact ⟨[], rest, rfl, fresh_nil, .inl hm⟩
        case isFalse hm =>
          obtain ⟨front, back, rfl, hfresh, hn⟩ := ih.1 h
          refine ⟨m :: front, back, rfl, fresh_cons.2 ⟨hm, hfresh⟩, ?_⟩
          simp only [List.mem_cons] at hn ⊢
          tauto
      · rintro ⟨_ | ⟨k, front⟩, back, hnames, hfresh, hn⟩
        · cases hnames
          rw [if_pos (hn.resolve_right List.not_mem_nil)]
        · cases hnames
          obtain ⟨hm, hfresh⟩ := fresh_cons.1 hfresh
          rw [if_neg hm]
          refine ih.2 ⟨front, back, rfl, hfresh, ?_⟩
          simp only [List.mem_cons] at hn ⊢
          tauto

theorem of_eq_error_iff_firstRepeated? :
    of name columns = .error e ↔
      ∃ n, firstRepeated? [] (columns.map Column.name) = some n ∧ e = .duplicateColumn n name := by
  unfold of
  split
  · rename_i n h
    rw [h]
    constructor
    · intro he
      cases he
      exact ⟨n, rfl, rfl⟩
    · rintro ⟨m, hm, rfl⟩
      cases hm
      rfl
  · rename_i h
    constructor
    · intro he
      cases he
    · rintro ⟨n, hn, -⟩
      rw [h] at hn
      cases hn

theorem exists_of_eq_error_iff :
    (∃ e, of name columns = .error e) ↔ ∃ c d, [c, d].Sublist columns ∧ c.name = d.name := by
  have hfresh : Fresh [] (columns.map Column.name) ↔
      ∀ c d, [c, d].Sublist columns → c.name ≠ d.name := by
    rw [Fresh, List.Nodup, List.pairwise_map, List.pairwise_iff_forall_sublist]
    simp
  calc (∃ e, of name columns = .error e)
      ↔ firstRepeated? [] (columns.map Column.name) ≠ none := by
        rw [Option.ne_none_iff_exists']
        simp only [of_eq_error_iff_firstRepeated?]
        constructor
        · rintro ⟨_, n, hn, -⟩
          exact ⟨n, hn⟩
        · rintro ⟨n, hn⟩
          exact ⟨_, n, hn, rfl⟩
    _ ↔ ∃ c d, [c, d].Sublist columns ∧ c.name = d.name := by
        rw [Ne, firstRepeated?_eq_none_iff, hfresh]
        push Not
        rfl

/-- The refusal names the earliest column whose name a column before it bears already. -/
theorem of_eq_error_iff :
    of name columns = .error e ↔
      ∃ front c back, columns = front ++ c :: back ∧ (front.map Column.name).Nodup ∧
        (∃ d ∈ front, d.name = c.name) ∧ e = .duplicateColumn c.name name := by
  rw [of_eq_error_iff_firstRepeated?]
  constructor
  · rintro ⟨n, hn, rfl⟩
    obtain ⟨names, rest, hnames, ⟨hnodup, -⟩, hseen⟩ := firstRepeated?_eq_some_iff.1 hn
    obtain ⟨front, back, rfl, rfl, hback⟩ := List.map_eq_append_iff.1 hnames
    obtain ⟨c, back, rfl, rfl, -⟩ := List.map_eq_cons_iff.1 hback
    refine ⟨front, c, back, rfl, hnodup, ?_, rfl⟩
    exact List.mem_map.1 (hseen.resolve_left List.not_mem_nil)
  · rintro ⟨front, c, back, rfl, hnodup, hd, rfl⟩
    refine ⟨c.name, ?_, rfl⟩
    rw [firstRepeated?_eq_some_iff]
    refine ⟨front.map Column.name, back.map Column.name, ?_, ⟨hnodup, by simp⟩, .inr ?_⟩
    · rw [List.map_append, List.map_cons]
    · exact List.mem_map.2 hd

theorem columns_of (h : of name columns = .ok table) : table.columns = columns := by
  unfold of at h
  split at h
  · cases h
  · cases h
    rfl

end Refused

/-! ## Accepted lists of columns -/

/-- The table holds the columns, and looking up a name finds the only one that bears it. -/
structure LooksUp (table : Table) (columns : List Column) : Prop where
  columns_eq : table.columns = columns
  found_iff : ∀ n c, table.column? n = some c ↔ c ∈ columns ∧ c.name = n
  absent_iff : ∀ n, table.column? n = none ↔ ∀ c ∈ columns, c.name ≠ n
  only_found : ∀ n, columns.filter (·.name = n) = (table.column? n).toList
  mem_iff : ∀ n, table.contains n = true ↔ table.column? n ≠ none

theorem looksUp_columns : table.LooksUp table.columns where
  columns_eq := rfl
  found_iff _ _ := column?_eq_some_iff
  absent_iff _ := column?_eq_none_iff
  only_found _ := filter_name_eq
  mem_iff _ := contains_iff

/-- The error names the column as a repeated one of the table. -/
structure Blames (e : SchemaError) (name : String) (c : Column) : Prop where
  eq_duplicateColumn : e = .duplicateColumn c.name name
  family_fault : e.fault.family = .validation
  message_fault : e.fault.message = "duplicate column '" ++ c.name ++ "' in table '" ++ name ++ "'"

/-- A list of columns is refused exactly if two of them share a name, on account of the earliest one
whose name stood before. Any other list makes a table in which look-ups are exact. -/
theorem of_looksUp (name : String) (columns : List Column) :
    ((∃ e, of name columns = .error e) ↔ ∃ c d, [c, d].Sublist columns ∧ c.name = d.name) ∧
    (∀ e, of name columns = .error e ↔
      ∃ front c back, columns = front ++ c :: back ∧ (front.map Column.name).Nodup ∧
        (∃ d ∈ front, d.name = c.name) ∧ Blames e name c) ∧
    ∀ table, of name columns = .ok table → table.LooksUp columns := by
  refine ⟨exists_of_eq_error_iff, fun e => of_eq_error_iff.trans ?_, fun table h => ?_⟩
  · constructor
    · rintro ⟨front, c, back, hcolumns, hnodup, hd, rfl⟩
      exact ⟨front, c, back, hcolumns, hnodup, hd, rfl, rfl, rfl⟩
    · rintro ⟨front, c, back, hcolumns, hnodup, hd, hblames⟩
      exact ⟨front, c, back, hcolumns, hnodup, hd, hblames.eq_duplicateColumn⟩
  · rw [← columns_of h]
    exact looksUp_columns

/-- Of two names that are repeated the one that is repeated first is blamed. -/
theorem of_looksUp_people :
    let age : Column := ⟨"age", .integer, [], by decide, by decide⟩
    let born : Column := ⟨"born", .date, [], by decide, by decide⟩
    of "people" [age, born, born, age] = .error (.duplicateColumn "born" "people") ∧
      ∃ table, of "people" [age, born] = .ok table ∧ table.column? "born" = some born ∧
        table.column? "name" = none ∧ table.contains "age" = true := by
  intro age born
  have hrefused : of "people" [age, born, born, age] = .error (.duplicateColumn "born" "people") := by
    rw [(of_looksUp "people" [age, born, born, age]).2.1]
    exact ⟨[age, born], born, [age], rfl, by decide, ⟨born, by decide, rfl⟩, rfl, rfl, rfl⟩
  obtain ⟨table, htable⟩ : ∃ table, of "people" [age, born] = .ok table := ⟨_, rfl⟩
  have hlooks := (of_looksUp "people" [age, born]).2.2 table htable
  have hborn : table.column? "born" = some born := (hlooks.found_iff _ _).2 ⟨by decide, rfl⟩
  have hname : table.column? "name" = none := (hlooks.absent_iff _).2 (by decide)
  have hage : table.column? "age" = some age := (hlooks.found_iff _ _).2 ⟨by decide, rfl⟩
  have hcontains : table.contains "age" = true := by
    rw [hlooks.mem_iff, hage]
    exact nofun
  exact ⟨hrefused, table, htable, hborn, hname, hcontains⟩

end RowFilter.Table
