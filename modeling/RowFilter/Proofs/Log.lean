import Mathlib.Data.List.Induction
import Mathlib.Data.List.Nodup
import RowFilter.Settings.Search

/-!
# Runs of a log

A configuration has an effect if its settings are valid and it is forced or none before it had one.
The latest one that did fixes the level and leaves one handler; any other call leaves the log as it
is. Lines are what handlers write: under a library that does what it documents, a report becomes one
line exactly if some configuration had an effect before it and its severity reaches the level.
-/

namespace RowFilter

/-! ## Names of levels -/

namespace Level

variable {s : String} {m n : Int}

/-- The text is a name of the level, in small letters or capitals. -/
def Names (s : String) (n : Int) : Prop := (String.ofList (Text.upper s.toList), n) ∈ names

theorem lookup_eq_some_of_mem {entries : List (String × Int)}
    (hnodup : (entries.map Prod.fst).Nodup) (h : (s, n) ∈ entries) :
    entries.lookup s = some n := by
  obtain ⟨front, back, rfl⟩ := List.append_of_mem h
  refine List.lookup_eq_some_iff.2 ⟨front, back, rfl, fun p hp => ?_⟩
  rw [List.map_append, List.map_cons, List.nodup_append] at hnodup
  rw [bne_iff_ne]
  exact (hnodup.2.2 p.1 (List.mem_map_of_mem hp) s (List.mem_cons_self ..)).symm

theorem ofName?_eq_some_iff : ofName? s = some n ↔ Names s n := by
  constructor
  · intro h
    obtain ⟨front, back, hnames, -⟩ := List.lookup_eq_some_iff.1 h
    rw [Names, hnames]
    exact List.mem_append_right _ (List.mem_cons_self ..)
  · exact lookup_eq_some_of_mem (by decide)

theorem Names.unique (hm : Names s m) (hn : Names s n) : m = n := by
  rw [← ofName?_eq_some_iff] at hm hn
  exact Option.some.inj (hm.symm.trans hn)

end Level

namespace SearchSettings

variable {s : String} {n : Int}

end SearchSettings

/-! ## The documented library -/

namespace Log

variable {log start : Log} {lib : LogLibrary} {earlier calls front back : List Call} {c : Call}
  {level : Option Level.Choice} {settings : Option String} {force : Bool} {m n : Int} {r : Report}

/-! ## Levels of configurations -/

/-- The level that a configuration asks for: its own one, else that of the settings. An unknown name
and a configuration without either ask for information. -/
inductive AsksFor : Option Level.Choice → Option String → Int → Prop
  | number (n : Int) (settings : Option String) : AsksFor (some (.number n)) settings n
  | name {s : String} {n : Int} (settings : Option String) : Level.Names s n →
      AsksFor (some (.name s)) settings n
  | unknown {s : String} (settings : Option String) : (∀ n, ¬Level.Names s n) →
      AsksFor (some (.name s)) settings Level.info
  | settings {s : String} {n : Int} : Level.Names s n → AsksFor none (some s) n
  | neither : AsksFor none none Level.info

theorem AsksFor.unique (hm : AsksFor level settings m) (hn : AsksFor level settings n) : m = n := by
  cases hm with
  | number => cases hn; rfl
  | name _ hm =>
      cases hn with
      | name _ hn => exact hm.unique hn
      | unknown _ hn => exact absurd hm (hn _)
  | unknown _ hm =>
      cases hn with
      | name _ hn => exact absurd hn (hm _)
      | unknown => rfl
  | settings hm =>
      cases hn with
      | settings hn => exact hm.unique hn
  | neither => cases hn; rfl

end Log

end RowFilter
