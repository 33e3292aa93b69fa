import Mathlib.Data.List.Basic
import RowFilter.Proofs.Wire.Fragment
import RowFilter.Session

/-!
# Written query strings

Fragments have no ampersand and no question mark, so a query string is cut into exactly the fragments
it was joined from.
-/

namespace RowFilter

open RowFilter.Wire

namespace Session

variable {s : Session}

/-! ## Cutting a query string -/

theorem not_mem_intercalate {sep c : Char} {ts : List (List Char)} (hsep : c ≠ sep)
    (hts : ∀ t ∈ ts, c ∉ t) : c ∉ [sep].intercalate ts := by
  induction ts with
  | nil => exact List.not_mem_nil
  | cons t ts ih =>
      have ht := hts t (List.mem_cons_self ..)
      have hrec := ih fun u hu => hts u (List.mem_cons_of_mem _ hu)
      cases ts with
      | nil => rwa [List.intercalate_singleton]
      | cons u us =>
          rw [List.intercalate_cons_cons]
          simp [ht, hsep, hrec]

theorem dropWhile_of_not_mem {c : Char} {text : List Char} (h : c ∉ text) :
    text.dropWhile (· = c) = text := by
  cases text with
  | nil => rfl
  | cons d text =>
      have hd : d ≠ c := fun hd => h (hd ▸ List.mem_cons_self ..)
      rw [List.dropWhile_cons_of_neg (by simp [hd])]

/-- Fragments that are joined are cut apart again; no fragments leave one empty part. -/
theorem map_ofList_splitOn {ws : List String} (hws : ∀ w ∈ ws, w.toList ≠ [] ∧ '&' ∉ w.toList) :
    (((['&'].intercalate (ws.map String.toList)).splitOn '&').filter (· ≠ [])).map String.ofList =
      ws := by
  by_cases hne : ws = []
  · rw [hne]
    rfl
  have hparts : ∀ t ∈ ws.map String.toList, t ≠ [] ∧ '&' ∉ t := by
    intro t ht
    obtain ⟨w, hw, rfl⟩ := List.mem_map.1 ht
    exact hws w hw
  rw [List.splitOn_intercalate '&' (fun t ht => (hparts t ht).2) (by simpa using hne),
    List.filter_eq_self.2 fun t ht => decide_eq_true (hparts t ht).1, List.map_map]
  exact List.map_id'' (fun w => String.ofList_toList) _

/-! ## The fragments of a session -/

theorem isFragment_of_mem_queryParams {w : String} (h : w ∈ s.queryParams) : IsFragment w.toList := by
  obtain ⟨f, -, hw⟩ := List.mem_flatMap.1 h
  exact Filter.isFragment_write (Filter.mem_fragments.1 hw)

theorem splitOn_queryString (s : Session) :
    ((s.queryString.toList.splitOn '&').filter (· ≠ [])).map String.ofList = s.queryParams := by
  rw [queryString, String.toList_intercalate]
  refine map_ofList_splitOn fun w hw => ?_
  have hfragment := isFragment_of_mem_queryParams hw
  exact ⟨hfragment.ne_nil, hfragment.not_mem (by decide)⟩

theorem pieces_queryString (s : Session) : pieces s.queryString = s.queryParams := by
  have hmark : '?' ∉ s.queryString.toList := by
    rw [queryString, String.toList_intercalate]
    apply not_mem_intercalate (by decide)
    intro t ht
    obtain ⟨w, hw, rfl⟩ := List.mem_map.1 ht
    exact (isFragment_of_mem_queryParams hw).not_mem (by decide)
  rw [pieces, dropWhile_of_not_mem hmark, splitOn_queryString]

/-- Whatever the texts of a filter are, it is written as at most one fragment of harmless characters;
it has none exactly if it is a day that spells none or the last one, and that is the only event. The
query string of a session is cut at its ampersands into the fragments of the session. -/
theorem isFragment_queryParams :
    (∀ f : Filter, (∀ w ∈ f.fragments, IsFragment w.toList) ∧ f.fragments.length ≤ 1 ∧
        (f.fragments = [] ↔ ∃ d, f.operation = .inDate d ∧ d.LacksNextDay) ∧
        (∀ d, f.operation = .inDate d → d.LacksNextDay →
          f.writeEvents = [.dayNotWritten f.column d.raw]) ∧
        (f.fragments ≠ [] → f.writeEvents = [])) ∧
      ∀ s : Session, ((s.queryString.toList.splitOn '&').filter (· ≠ [])).map String.ofList =
        s.queryParams := by
  refine ⟨fun f => ⟨fun w hw => ?_, f.length_fragments_le, Filter.fragments_eq_nil_iff,
    fun d hop h => Filter.writeEvents_of_lacksNextDay hop h,
    Filter.writeEvents_of_fragments_ne_nil⟩, splitOn_queryString⟩
  exact Filter.isFragment_write (Filter.mem_fragments.1 hw)

/-- Neither a name nor a text that looks like a query string leaves its fragment, and the last day of
the calendar is left out with an event. -/
theorem isFragment_queryParams_marks :
    let marks : Filter := ⟨"a&b=#", .compare .equals ⟨.text, "\"1&age=eq.2%26\""⟩⟩
    let last : Filter := ⟨"made", .inDate ⟨.date, " 9999-12-31 "⟩⟩
    let s : Session := ⟨⟨"t", [], by decide⟩, [last, marks]⟩
    let w := "a%26b%3D%23=eq.%22%5C%221%26age%3Deq.2%2526%5C%22%22"
    marks.fragments = [w] ∧ IsFragment w.toList ∧ marks.writeEvents = [] ∧ last.fragments = [] ∧
      last.writeEvents = [.dayNotWritten "made" " 9999-12-31 "] ∧
      ((s.queryString.toList.splitOn '&').filter (· ≠ [])).map String.ofList = [w] := by
  intro marks last s w
  obtain ⟨hfilter, hsession⟩ := isFragment_queryParams
  obtain ⟨hmarks, -, -, -, hevents⟩ := hfilter marks
  obtain ⟨-, -, hnone, hlast, -⟩ := hfilter last
  have hw : marks.fragments = [w] := by decide +kernel
  have hday : Operand.LacksNextDay ⟨.date, " 9999-12-31 "⟩ := .inr (by decide +kernel)
  have hparams : s.queryParams = [w] := by decide +kernel
  refine ⟨hw, hmarks w (by rw [hw]; exact List.mem_singleton_self w), hevents (by simp [hw]),
    hnone.2 ⟨_, rfl, hday⟩, hlast _ rfl hday, (hsession s).trans hparams⟩

end Session

end RowFilter
