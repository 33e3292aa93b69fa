import RowFilter.Proofs.Session.Reload

/-!
# The account of a query string

Every fragment of a query string that is not ignored becomes a filter or an event, in the order of
the fragments. Two query strings that are joined are accounted for one after the other.
-/

namespace RowFilter

open RowFilter.Wire

/-! ## Accounts of fragments -/

/-- The filters that fragments are read as and the events of those that are dropped, each in the
order of the fragments. -/
inductive Accounts (table : Table) : List String → List Filter → List Event → Prop
  | nil : Accounts table [] [] []
  | read {w ws f fs es} : parseIn table w = some f → Accounts table ws fs es →
      Accounts table (w :: ws) (f :: fs) es
  | dropped {w ws fs es} : parseIn table w = none → Accounts table ws fs es →
      Accounts table (w :: ws) fs (.fragmentDropped table.name (fragmentColumn? w) w :: es)

namespace Accounts

variable {table : Table} {ws vs : List String} {fs gs : List Filter} {es ds : List Event}

theorem append (h : Accounts table ws fs es) (h' : Accounts table vs gs ds) :
    Accounts table (ws ++ vs) (fs ++ gs) (es ++ ds) := by
  induction h with
  | nil => exact h'
  | read hw _ ih => exact .read hw ih
  | dropped hw _ ih => exact .dropped hw ih

theorem length_eq (h : Accounts table ws fs es) : fs.length + es.length = ws.length := by
  induction h with
  | nil => rfl
  | read _ _ ih | dropped _ _ ih =>
      simp only [List.length_cons]
      omega

theorem unique (h : Accounts table ws fs es) (h' : Accounts table ws gs ds) : fs = gs ∧ es = ds := by
  induction h generalizing gs ds with
  | nil =>
      cases h'
      exact ⟨rfl, rfl⟩
  | read hw _ ih =>
      cases h' with
      | read hw' hrest =>
          obtain ⟨rfl, rfl⟩ := ih hrest
          exact ⟨by rw [Option.some.inj (hw.symm.trans hw')], rfl⟩
      | dropped hw' => cases hw.symm.trans hw'
  | dropped hw _ ih =>
      cases h' with
      | read hw' => cases hw.symm.trans hw'
      | dropped _ hrest =>
          obtain ⟨rfl, rfl⟩ := ih hrest
          exact ⟨rfl, rfl⟩

end Accounts

namespace Session

variable {first second : String} {ignored : List String}

/-! ## Joined query strings -/

/-- Question marks are dropped at the very front only, so the second query string must not begin with
one. -/
theorem pieces_append (h : second.toList.head? ≠ some '?') :
    pieces (first ++ "&" ++ second) = pieces first ++ pieces second := by
  have hsecond : second.toList.dropWhile (· = '?') = second.toList := by
    cases hs : second.toList with
    | nil => rfl
    | cons c rest =>
        rw [hs] at h
        exact List.dropWhile_cons_of_neg (by simpa using h)
  have hjoin : (first ++ "&" ++ second).toList.dropWhile (· = '?') =
      first.toList.dropWhile (· = '?') ++ '&' :: second.toList := by
    simp [List.dropWhile_append]
  simp only [pieces, hjoin, hsecond, List.splitOn_append_cons_self, List.filter_append, List.map_append]

theorem filterPieces_append (h : second.toList.head? ≠ some '?') :
    filterPieces ignored (first ++ "&" ++ second) =
      filterPieces ignored first ++ filterPieces ignored second := by
  rw [filterPieces, pieces_append h, List.filter_append]
  rfl

/-! ## Accounts of query strings -/

theorem accounts_ofQuery (table : Table) (ignored : List String) (query : String) :
    Accounts table (filterPieces ignored query) (ofQuery table ignored query).filters
      (queryEvents table ignored query) := by
  simp only [ofQuery, queryEvents]
  induction filterPieces ignored query with
  | nil => exact .nil
  | cons w ws ih =>
      cases hread : parseIn table w with
      | some f =>
          have hpiece : readPiece table w = .ok f := by rw [readPiece, hread]
          simp only [List.filterMap_cons, hpiece]
          exact .read hread ih
      | none =>
          have hpiece : readPiece table w =
              .error (.fragmentDropped table.name (fragmentColumn? w) w) := by rw [readPiece, hread]
          simp only [List.filterMap_cons, hpiece]
          exact .dropped hread ih

theorem account_append (table : Table) (h : second.toList.head? ≠ some '?') :
    (ofQuery table ignored (first ++ "&" ++ second)).filters =
        (ofQuery table ignored first).filters ++ (ofQuery table ignored second).filters ∧
      queryEvents table ignored (first ++ "&" ++ second) =
        queryEvents table ignored first ++ queryEvents table ignored second := by
  have hjoin := accounts_ofQuery table ignored (first ++ "&" ++ second)
  rw [filterPieces_append h] at hjoin
  exact hjoin.unique ((accounts_ofQuery table ignored first).append
    (accounts_ofQuery table ignored second))

/-- Joined query strings give the filters and the events of the first and then those of the second.
Of every query string, each fragment that is not ignored is accounted for by one filter or by one
event, in order, and by nothing else. -/
theorem ofQuery_append (table : Table) (ignored : List String) :
    (∀ first second : String, second.toList.head? ≠ some '?' →
      (ofQuery table ignored (first ++ "&" ++ second)).filters =
          (ofQuery table ignored first).filters ++ (ofQuery table ignored second).filters ∧
        queryEvents table ignored (first ++ "&" ++ second) =
          queryEvents table ignored first ++ queryEvents table ignored second) ∧
      ∀ query, (ofQuery table ignored query).filters.length +
            (queryEvents table ignored query).length = (filterPieces ignored query).length ∧
        ∀ fs es, Accounts table (filterPieces ignored query) fs es ↔
          fs = (ofQuery table ignored query).filters ∧ es = queryEvents table ignored query := by
  refine ⟨fun first second h => account_append table h, fun query => ?_⟩
  have hquery := accounts_ofQuery table ignored query
  refine ⟨hquery.length_eq, fun fs es => ⟨fun h => h.unique hquery, ?_⟩⟩
  rintro ⟨rfl, rfl⟩
  exact hquery

/-- Leading question marks, an empty fragment and an ignored one leave no trace. -/
theorem ofQuery_append_people :
    let table : Table := ⟨"people", [⟨"age", .integer, [], by decide, by decide⟩], by decide⟩
    let ignored := SearchSettings.defaultIgnored
    let first := "??age=gt.5&&order=age&size=eq.1"
    let second := "age=is.null"
    second.toList.head? ≠ some '?' ∧
      filterPieces ignored first = ["age=gt.5", "size=eq.1"] ∧
      (ofQuery table ignored (first ++ "&" ++ second)).filters =
          (ofQuery table ignored first).filters ++ (ofQuery table ignored second).filters ∧
      queryEvents table ignored (first ++ "&" ++ second) =
          queryEvents table ignored first ++ queryEvents table ignored second ∧
      Accounts table ["age=gt.5", "size=eq.1"] [⟨"age", .compare .greaterThan ⟨.integer, "5"⟩⟩]
        [.fragmentDropped "people" (some "size") "size=eq.1"] := by
  intro table ignored first second
  obtain ⟨happend, hquery⟩ := ofQuery_append table ignored
  have hsecond : second.toList.head? ≠ some '?' := by decide
  have hpieces : filterPieces ignored first = ["age=gt.5", "size=eq.1"] := by decide +kernel
  have hfilters : [⟨"age", .compare .greaterThan ⟨.integer, "5"⟩⟩] =
      (ofQuery table ignored first).filters := by decide +kernel
  have hevents : [.fragmentDropped "people" (some "size") "size=eq.1"] =
      queryEvents table ignored first := by decide +kernel
  refine ⟨hsecond, hpieces, (happend first second hsecond).1, (happend first second hsecond).2, ?_⟩
  rw [← hpieces]
  exact ((hquery first).2 _ _).2 ⟨hfilters, hevents⟩

end Session

end RowFilter
