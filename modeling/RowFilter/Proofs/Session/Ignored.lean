import RowFilter.Proofs.Session.Account

/-!
# Ignored parameters

Every fragment of a query string that is not ignored leaves a trace, a filter or an event, and one
that is ignored leaves none. Fragments are ignored by their key as it is written, before the
percent-decoding that gives the column they name.
-/

namespace RowFilter.Session

open RowFilter.Wire

variable {table : Table} {ignored : List String} {query rest piece : String}
  {front back : List String}

/-! ## Fragments of a query string -/

theorem not_mem_of_mem_splitOn {sep : Char} {text part : List Char}
    (h : part ∈ text.splitOn sep) : sep ∉ part := by
  induction text generalizing part with
  | nil =>
      rw [List.splitOn_nil, List.mem_singleton] at h
      exact h ▸ List.not_mem_nil
  | cons c text ih =>
      rw [List.splitOn_cons_eq_if_modifyHead] at h
      split at h
      · rcases List.mem_cons.1 h with rfl | h
        · exact List.not_mem_nil
        · exact ih h
      · rename_i hc
        have hsep : sep ≠ c := fun e => hc (beq_iff_eq.2 e.symm)
        cases hparts : text.splitOn sep with
        | nil => exact absurd hparts (List.splitOn_ne_nil sep text)
        | cons head parts =>
            rw [hparts, List.modifyHead_cons] at h
            rw [hparts] at ih
            rcases List.mem_cons.1 h with rfl | h
            · exact List.not_mem_cons_of_ne_of_not_mem hsep (ih (List.mem_cons_self ..))
            · exact ih (List.mem_cons_of_mem _ h)

theorem mem_pieces (h : piece ∈ pieces query) : piece.toList ≠ [] ∧ '&' ∉ piece.toList := by
  obtain ⟨part, hpart, rfl⟩ := List.mem_map.1 h
  obtain ⟨hmem, hne⟩ := List.mem_filter.1 hpart
  rw [String.toList_ofList]
  exact ⟨of_decide_eq_true hne, not_mem_of_mem_splitOn hmem⟩

/-- An ampersand before the first fragment keeps its question marks from being dropped. -/
theorem exists_pieces_eq {ws : List String} (hws : ∀ w ∈ ws, w.toList ≠ [] ∧ '&' ∉ w.toList) :
    ∃ query, pieces query = ws := by
  refine ⟨String.ofList ('&' :: ['&'].intercalate (ws.map String.toList)), ?_⟩
  rw [pieces, String.toList_ofList, List.dropWhile_cons_of_neg (by decide),
    List.splitOn_cons_eq_if_modifyHead, if_pos (beq_self_eq_true _),
    List.filter_cons_of_neg (by simp)]
  exact map_ofList_splitOn hws

/-! ## Traces -/

/-- One query string is read as the other: the same filters, with the same events. -/
def ReadsAlike (table : Table) (ignored : List String) (query rest : String) : Prop :=
  ofQuery table ignored query = ofQuery table ignored rest ∧
    queryEvents table ignored query = queryEvents table ignored rest

theorem ReadsAlike.of_filterPieces_eq (h : filterPieces ignored query = filterPieces ignored rest) :
    ReadsAlike table ignored query rest := by
  unfold ReadsAlike ofQuery queryEvents
  rw [h]
  exact ⟨rfl, rfl⟩

theorem ReadsAlike.length_filterPieces (h : ReadsAlike table ignored query rest) :
    (filterPieces ignored query).length = (filterPieces ignored rest).length := by
  obtain ⟨hfilters, hevents⟩ := h
  rw [← (accounts_ofQuery table ignored query).length_eq,
    ← (accounts_ofQuery table ignored rest).length_eq, hfilters, hevents]

theorem readsAlike_iff (hquery : pieces query = front ++ piece :: back)
    (hrest : pieces rest = front ++ back) :
    ReadsAlike table ignored query rest ↔ pieceKey piece ∈ ignored := by
  constructor
  · -- a fragment that is not ignored would count once more among the filters and events
    intro h
    by_contra hkey
    have hkept : filterPieces ignored query = front.filter (pieceKey · ∉ ignored) ++
        piece :: back.filter (pieceKey · ∉ ignored) := by
      rw [filterPieces, hquery, List.filter_append, List.filter_cons_of_pos (by simpa using hkey)]
    have hlength := h.length_filterPieces
    rw [hkept, filterPieces, hrest, List.filter_append, List.length_append, List.length_append,
      List.length_cons] at hlength
    omega
  · intro hkey
    apply ReadsAlike.of_filterPieces_eq
    rw [filterPieces, filterPieces, hquery, hrest, List.filter_append, List.filter_append,
      List.filter_cons_of_neg (by simpa using hkey)]

/-! ## The name of a parameter -/

/-- The decoded name of the parameter that a fragment sets. -/
def pieceName (piece : String) : String :=
  String.ofList (Percent.decode (pieceKey piece).toList)

theorem pieceName_eq_pieceKey (h : '%' ∉ (pieceKey piece).toList) :
    pieceName piece = pieceKey piece := by
  rw [pieceName, (Percent.Spells.plain h).decode_eq, String.ofList_toList]

/-- Leaving a fragment out of a query string changes nothing, neither the filters nor the events,
exactly if its key is ignored as it is written. Where the key has no percent sign that is the name
of the parameter. -/
theorem readsAlike_without_iff (table : Table) (ignored : List String)
    (h : pieces query = front ++ piece :: back) :
    (∃ rest, pieces rest = front ++ back) ∧
      ∀ rest, pieces rest = front ++ back →
        (ReadsAlike table ignored query rest ↔ pieceKey piece ∈ ignored) ∧
          ('%' ∉ (pieceKey piece).toList →
            (ReadsAlike table ignored query rest ↔ pieceName piece ∈ ignored)) := by
  constructor
  · apply exists_pieces_eq
    intro w hw
    have hmem : w ∈ pieces query := by
      rw [h, List.mem_append, List.mem_cons]
      rcases List.mem_append.1 hw with hw | hw
      · exact .inl hw
      · exact .inr (.inr hw)
    exact mem_pieces hmem
  · intro rest hrest
    have hkey : ReadsAlike table ignored query rest ↔ pieceKey piece ∈ ignored :=
      readsAlike_iff h hrest
    refine ⟨hkey, fun hplain => ?_⟩
    rwa [pieceName_eq_pieceKey hplain]

/-- The parameter that selects columns leaves no trace before a filter. -/
theorem readsAlike_without_select :
    let table : Table := ⟨"people", [⟨"age", .integer, [], by decide, by decide⟩], by decide⟩
    let query := "select=age&age=gt.5"
    pieces query = [] ++ "select=age" :: ["age=gt.5"] ∧ '%' ∉ (pieceKey "select=age").toList ∧
      ReadsAlike table SearchSettings.defaultIgnored query "age=gt.5" := by
  intro table query
  have hquery : pieces query = [] ++ "select=age" :: ["age=gt.5"] := by decide +kernel
  have hrest : pieces "age=gt.5" = [] ++ ["age=gt.5"] := by decide +kernel
  have hplain : '%' ∉ (pieceKey "select=age").toList := by decide +kernel
  have hname : pieceName "select=age" ∈ SearchSettings.defaultIgnored := by decide +kernel
  exact ⟨hquery, hplain,
    (((readsAlike_without_iff table _ hquery).2 _ hrest).2 hplain).2 hname⟩

/-- The same parameter with one letter of its name escaped is reported as a dropped filter. -/
theorem not_readsAlike_escaped_select :
    let table : Table := ⟨"people", [⟨"age", .integer, [], by decide, by decide⟩], by decide⟩
    let query := "sel%65ct=age"
    pieces query = [query] ∧ pieceName query = "select" ∧
      pieceName query ∈ SearchSettings.defaultIgnored ∧
      queryEvents table SearchSettings.defaultIgnored query =
        [.fragmentDropped "people" (some "select") query] ∧
      ¬ ReadsAlike table SearchSettings.defaultIgnored query "" := by
  intro table query
  have hevents : queryEvents table SearchSettings.defaultIgnored query =
      [.fragmentDropped "people" (some "select") query] := by decide +kernel
  have hnone : queryEvents table SearchSettings.defaultIgnored "" = [] := by decide +kernel
  refine ⟨by decide +kernel, by decide +kernel, by decide +kernel, hevents, fun h => ?_⟩
  have hsame := h.2
  rw [hevents, hnone] at hsame
  exact absurd hsame (List.cons_ne_nil _ _)

end RowFilter.Session
