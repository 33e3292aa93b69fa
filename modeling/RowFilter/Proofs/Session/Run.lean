import RowFilter.Proofs.Operation.Accepts
import RowFilter.Proofs.Session.Reload

/-!
# Runs of changes

`Step` says what one change can do to a session. From it follows what every run keeps: each filter
names a column of the table that accepts its operation. A change that finds nothing to act on leaves
the session as it is, and any other change leaves the filters around the place it touches.
-/

namespace RowFilter

/-! ## Accepted filters -/

/-- The filter names a column of the table that accepts its operation. -/
def Table.Accepts (table : Table) (f : Filter) : Prop :=
  ∃ c, table.column? f.column = some c ∧ c.accepts f.operation = true

namespace Table

variable {table : Table}

theorem accepts_defaultFor {c : Column} (h : table.column? c.name = some c) :
    table.Accepts (.defaultFor c) :=
  ⟨c, h, c.accepts_defaultOperation⟩

theorem accepts_of_parse {c : Column} {fragment : String} {f : Filter} (hc : c ∈ table.columns)
    (h : Wire.parse c fragment = some f) : table.Accepts f := by
  obtain ⟨key, text, -, -, hacc, hname⟩ := Wire.parse_eq_some_iff.1 h
  exact ⟨c, column?_eq_some_iff.2 ⟨hc, hname.symm⟩, hacc⟩

end Table

namespace Session

variable {s s' : Session} {c : Change} {table : Table}

/-! ## Places -/

theorem place?_eq_some_iff {index : Int} {i : Nat} :
    s.place? index = some i ↔ index = i ∧ i < s.filters.length := by
  unfold place? size
  split
  · rename_i h
    simp only [Bool.and_eq_true, decide_eq_true_eq] at h
    simp only [Option.some.injEq]
    omega
  · rename_i h
    simp only [Bool.and_eq_true, decide_eq_true_eq] at h
    simp only [reduceCtorEq, false_iff]
    omega

theorem place?_eq_none_iff {index : Int} :
    s.place? index = none ↔ ¬(0 ≤ index ∧ index < s.filters.length) := by
  unfold place? size
  simp

theorem exists_split {fs : List Filter} {i : Nat} (h : i < fs.length) :
    ∃ front f back, fs = front ++ f :: back ∧ front.length = i := by
  refine ⟨fs.take i, fs[i], fs.drop (i + 1), ?_, List.length_take_of_le (Nat.le_of_lt h)⟩
  rw [List.getElem_cons_drop, List.take_append_drop]

/-! ## One step -/

/-- The change finds nothing to act on. -/
def Misses (s : Session) : Change → Prop
  | .ofQuery .. => False
  | .add _ => s.table.columns = []
  | .remove index => ¬(0 ≤ index ∧ index < s.filters.length)
  | .update index f =>
    ¬(0 ≤ index ∧ index < s.filters.length) ∨ ∀ c ∈ s.table.columns, c.name ≠ f.column

theorem update_of_place?_eq_none {index : Int} {f : Filter} (h : s.place? index = none) :
    s.update index f = s := by
  simp only [Session.update, h]

theorem update_of_column?_eq_none {index : Int} {f : Filter} (h : s.table.column? f.column = none) :
    s.update index f = s := by
  have hsettle : s.settle? f = none := by rw [settle?, h, Option.map_none]
  rw [Session.update, hsettle]
  cases s.place? index <;> rfl

theorem change_of_misses (h : s.Misses c) : s.change c = s := by
  cases c with
  | ofQuery ignored query => exact h.elim
  | add p =>
      have hfirst : s.table.firstColumn? = none := List.head?_eq_none_iff.2 h
      simp only [change, add, hfirst]
  | remove index => simp only [change, Session.remove, place?_eq_none_iff.2 h]
  | update index f =>
      rcases h with h | h
      · exact update_of_place?_eq_none (place?_eq_none_iff.2 h)
      · exact update_of_column?_eq_none (Table.column?_eq_none_iff.2 h)

/-- All that a change can do to a session. -/
inductive Step (s : Session) : Change → Session → Prop
  | ofQuery {ignored query} : Step s (.ofQuery ignored query) (.ofQuery s.table ignored query)
  | atFront {column} : s.table.firstColumn? = some column →
      Step s (.add .atFront) ⟨s.table, .defaultFor column :: s.filters⟩
  | atEnd {column} : s.table.firstColumn? = some column →
      Step s (.add .atEnd) ⟨s.table, s.filters ++ [.defaultFor column]⟩
  | remove {front f back} : s.filters = front ++ f :: back →
      Step s (.remove front.length) ⟨s.table, front ++ back⟩
  | update {front g back f} : s.filters = front ++ g :: back → s.table.Accepts f →
      Step s (.update front.length f) ⟨s.table, front ++ f :: back⟩
  | reset {front g back f column} : s.filters = front ++ g :: back →
      s.table.column? f.column = some column → column.accepts f.operation = false →
      Step s (.update front.length f) ⟨s.table, front ++ .defaultFor column :: back⟩
  | missed {change} : s.Misses change → Step s change s

theorem step_add (p : Position) : s.Step (.add p) (s.add p) := by
  unfold add
  split
  · rename_i h
    exact .missed (List.head?_eq_none_iff.1 h)
  · rename_i c h
    cases p with
    | atFront => exact .atFront h
    | atEnd => exact .atEnd h

theorem step_remove (index : Int) : s.Step (.remove index) (s.remove index) := by
  unfold remove
  split
  · rename_i i h
    obtain ⟨rfl, hi⟩ := place?_eq_some_iff.1 h
    obtain ⟨front, f, back, hfilters, rfl⟩ := exists_split hi
    have herase : s.filters.eraseIdx front.length = front ++ back := by
      rw [hfilters, List.eraseIdx_append_of_length_le (Nat.le_refl _), Nat.sub_self,
        List.eraseIdx_cons_zero]
    rw [herase]
    exact .remove hfilters
  · rename_i h
    exact .missed (place?_eq_none_iff.1 h)

theorem set_append_cons (front : List Filter) (g f : Filter) (back : List Filter) :
    (front ++ g :: back).set front.length f = front ++ f :: back := by
  rw [List.set_append_right _ _ (Nat.le_refl _), Nat.sub_self, List.set_cons_zero]

theorem step_update (index : Int) (f : Filter) : s.Step (.update index f) (s.update index f) := by
  cases hplace : s.place? index with
  | none =>
      rw [update_of_place?_eq_none hplace]
      exact .missed (.inl (place?_eq_none_iff.1 hplace))
  | some i =>
      cases hcolumn : s.table.column? f.column with
      | none =>
          rw [update_of_column?_eq_none hcolumn]
          exact .missed (.inr (Table.column?_eq_none_iff.1 hcolumn))
      | some c =>
          obtain ⟨rfl, hi⟩ := place?_eq_some_iff.1 hplace
          obtain ⟨front, g, back, hfilters, rfl⟩ := exists_split hi
          simp only [Session.update, hplace, settle?, hcolumn, Option.map_some, hfilters,
            set_append_cons]
          split
          · rename_i hacc
            exact .update hfilters ⟨c, hcolumn, hacc⟩
          · rename_i hacc
            exact .reset hfilters hcolumn (Bool.eq_false_iff.2 hacc)

theorem step_change (c : Change) : s.Step c (s.change c) := by
  cases c with
  | ofQuery ignored query => exact .ofQuery
  | add p => exact step_add p
  | remove index => exact step_remove index
  | update index f => exact step_update index f

/-! ## What every step keeps -/

/-- The session is one of the table, which accepts every filter of it. -/
structure LawfulOn (table : Table) (s : Session) : Prop where
  table_eq : s.table = table
  accepted : ∀ f ∈ s.filters, table.Accepts f

theorem lawfulOn_empty (table : Table) : LawfulOn table ⟨table, []⟩ :=
  ⟨rfl, fun _ hf => absurd hf List.not_mem_nil⟩

theorem lawfulOn_ofQuery (table : Table) (ignored : List String) (query : String) :
    LawfulOn table (ofQuery table ignored query) := by
  refine ⟨rfl, fun f hf => ?_⟩
  obtain ⟨c, hc, w, hparse⟩ := exists_parse_of_mem_ofQuery hf
  exact Table.accepts_of_parse hc hparse

theorem LawfulOn.step (h : LawfulOn table s) (hstep : s.Step c s') : LawfulOn table s' := by
  obtain ⟨rfl, hacc⟩ := h
  cases hstep with
  | ofQuery => exact lawfulOn_ofQuery ..
  | atFront hc =>
      refine ⟨rfl, List.forall_mem_cons.2 ⟨?_, hacc⟩⟩
      exact Table.accepts_defaultFor (Table.column?_of_firstColumn? hc)
  | atEnd hc =>
      refine ⟨rfl, List.forall_mem_append.2 ⟨hacc, List.forall_mem_singleton.2 ?_⟩⟩
      exact Table.accepts_defaultFor (Table.column?_of_firstColumn? hc)
  | remove hfilters =>
      rw [hfilters, List.forall_mem_append, List.forall_mem_cons] at hacc
      exact ⟨rfl, List.forall_mem_append.2 ⟨hacc.1, hacc.2.2⟩⟩
  | update hfilters hf =>
      rw [hfilters, List.forall_mem_append, List.forall_mem_cons] at hacc
      exact ⟨rfl, List.forall_mem_append.2 ⟨hacc.1, List.forall_mem_cons.2 ⟨hf, hacc.2.2⟩⟩⟩
  | reset hfilters hcolumn _ =>
      rw [hfilters, List.forall_mem_append, List.forall_mem_cons] at hacc
      have hdefault := Table.accepts_defaultFor (Table.column?_name hcolumn)
      exact ⟨rfl, List.forall_mem_append.2 ⟨hacc.1, List.forall_mem_cons.2 ⟨hdefault, hacc.2.2⟩⟩⟩
  | missed => exact ⟨rfl, hacc⟩

theorem LawfulOn.changeAll (h : LawfulOn table s) (changes : List Change) :
    LawfulOn table (s.changeAll changes) := by
  induction changes generalizing s with
  | nil => exact h
  | cons c changes ih => exact ih (h.step (step_change c))

/-! ## What a step leaves as it is -/

/-- The part of the filters that a change touches: its place, and its length before and after. -/
def touched (s : Session) : Change → Nat × Nat × Nat
  | .ofQuery ignored query => (0, s.size, (ofQuery s.table ignored query).size)
  | .add .atFront => (0, 0, 1)
  | .add .atEnd => (s.size, 0, 1)
  | .remove index => (index.toNat, 1, 0)
  | .update index _ => (index.toNat, 1, 1)

/-- Before a place and behind it two lists are the same, in the same order; between, a part of one
length has given way to a part of another length. -/
def Splices (part : Nat × Nat × Nat) (fs gs : List Filter) : Prop :=
  ∃ front old new back, fs = front ++ old ++ back ∧ gs = front ++ new ++ back ∧
    (front.length, old.length, new.length) = part

theorem splices_append (front old new back : List Filter) :
    Splices (front.length, old.length, new.length) (front ++ old ++ back) (front ++ new ++ back) :=
  ⟨front, old, new, back, rfl, rfl, rfl⟩

theorem splices_of_step (hstep : s.Step c s') (hc : ¬s.Misses c) :
    Splices (s.touched c) s.filters s'.filters := by
  cases hstep with
  | @ofQuery ignored query =>
      simpa [touched, size] using splices_append [] s.filters (ofQuery s.table ignored query).filters []
  | @atFront column => exact splices_append [] [] [.defaultFor column] s.filters
  | @atEnd column => simpa [touched, size] using splices_append s.filters [] [.defaultFor column] []
  | @remove front f back h =>
      rw [h]
      simpa [touched] using splices_append front [f] [] back
  | @update front g back f h =>
      rw [h]
      simpa [touched] using splices_append front [g] [f] back
  | @reset front g back f column h =>
      rw [h]
      simpa [touched] using splices_append front [g] [.defaultFor column] back
  | missed h => exact absurd h hc

/-- However a session was built up, its table accepts all its filters. Every change is a step, which
puts the new filter or the default of its column in its place. A change that finds nothing to act on
leaves a session as it is; every other change leaves the filters around the touched part. -/
theorem lawfulOn_changeAll (table : Table) (changes : List Change) :
    LawfulOn table ((Session.mk table []).changeAll changes) ∧
      (∀ ignored query, LawfulOn table ((ofQuery table ignored query).changeAll changes)) ∧
      ∀ (s : Session) (c : Change), s.Step c (s.change c) ∧ (s.Misses c → s.change c = s) ∧
        (¬s.Misses c → Splices (s.touched c) s.filters (s.change c).filters) :=
  ⟨(lawfulOn_empty table).changeAll changes,
    fun ignored query => (lawfulOn_ofQuery table ignored query).changeAll changes,
    fun _ c => ⟨step_change c, change_of_misses, splices_of_step (step_change c)⟩⟩

/-- An update to an operation that the column does not allow puts its default in the place. -/
theorem lawfulOn_changeAll_goods :
    let stock : Column := ⟨"stock", .integer, [], by decide, by decide⟩
    let kind : Column := ⟨"kind", .enum, ["a", "b", "a"], by decide, by decide⟩
    let table : Table := ⟨"goods", [stock, kind], by decide⟩
    let s : Session := (ofQuery table [] "stock=gt.5&kind=is.null").changeAll [.add .atEnd]
    let reset : Change := .update 1 ⟨"kind", .truth true⟩
    LawfulOn table s ∧ s.Misses (.remove (-1)) ∧ s.change (.remove (-1)) = s ∧
      ¬s.Misses reset ∧ Splices (1, 1, 1) s.filters (s.change reset).filters ∧
      s.Step reset (s.change reset) ∧ (s.change reset).filters[1]? = some (.defaultFor kind) := by
  intro stock kind table s reset
  have hsize : s.filters.length = 3 := by decide +kernel
  obtain ⟨-, hlawful, hstep⟩ := lawfulOn_changeAll table [.add .atEnd]
  have hmiss : s.Misses (.remove (-1)) := fun h => absurd h.1 (by decide)
  have hhit : ¬s.Misses reset := by
    rintro (h | h)
    · rw [hsize] at h
      exact h (by decide)
    · exact h kind (List.mem_cons_of_mem _ (List.mem_cons_self ..)) rfl
  exact ⟨hlawful [] "stock=gt.5&kind=is.null", hmiss, (hstep s _).2.1 hmiss, hhit,
    (hstep s _).2.2 hhit, (hstep s reset).1, by decide +kernel⟩

end Session

end RowFilter
