import RowFilter.Fault

/-!
# Columns and tables

A column has a name and a kind; a column of kind `enum` lists its choices and no other column has
any. The columns of a table have different names.
-/

namespace RowFilter

inductive ColumnKind where
  | text
  | integer
  | float
  | boolean
  | date
  | time
  | enum
  deriving DecidableEq, Repr

namespace ColumnKind

def all : List ColumnKind := [.text, .integer, .float, .boolean, .date, .time, .enum]

def name : ColumnKind → String
  | .text => "text"
  | .integer => "integer"
  | .float => "float"
  | .boolean => "boolean"
  | .date => "date"
  | .time => "time"
  | .enum => "enum"

def ofName? (s : String) : Option ColumnKind := all.find? (·.name = s)

def ofName (s : String) : Except Cause ColumnKind :=
  match ofName? s with
  | some k => .ok k
  | none => .error (.badValue (Text.literal s ++ " is not a valid ColumnKind"))

end ColumnKind

/-! ## Violations -/

inductive SchemaError where
  | unnamedColumn
  | noChoices (column : String)
  | unexpectedChoices (column : String) (kind : ColumnKind)
  | duplicateColumn (column table : String)
  deriving DecidableEq

def SchemaError.fault : SchemaError → Fault
  | .unnamedColumn => .report .validation "column name must not be empty"
  | .noChoices column =>
    .report .validation ("enum column '" ++ column ++ "' needs at least one choice") [] none
      [.object [("field", .text "choices"), ("reason", .text "empty")]]
  | .unexpectedChoices column kind =>
    .report .validation
      ("column '" ++ column ++ "' of kind " ++ kind.name ++ " cannot declare choices") [] none
      [.object [("field", .text "choices"), ("reason", .text "unexpected")]]
  | .duplicateColumn column table =>
    .report .validation ("duplicate column '" ++ column ++ "' in table '" ++ table ++ "'")
      [("table", .text table)] none
      [.object [("field", .text "columns"), ("value", .text column), ("reason", .text "duplicate")]]

/-! ## Columns -/

structure Column where
  name : String
  kind : ColumnKind
  choices : List String
  name_ne : name ≠ ""
  choices_ne_iff : choices ≠ [] ↔ kind = .enum
  deriving DecidableEq

namespace Column

def of (name : String) (kind : ColumnKind) (choices : List String) : Except SchemaError Column :=
  if hn : name = "" then .error .unnamedColumn
  else if hc : choices ≠ [] ↔ kind = .enum then .ok ⟨name, kind, choices, hn, hc⟩
  else if kind = .enum then .error (.noChoices name)
  else .error (.unexpectedChoices name kind)

/-- A column of choices, each listed once. -/
def ofChoices (name : String) (choices : List String) : Except SchemaError Column :=
  of name .enum choices.eraseDups

end Column

/-! ## Tables -/

structure Table where
  name : String
  columns : List Column
  nodup : (columns.map Column.name).Nodup
  deriving DecidableEq

namespace Table

/-- The earliest name that already stood before it. -/
def firstRepeated? (seen : List String) : List String → Option String
  | [] => none
  | n :: rest => if n ∈ seen then some n else firstRepeated? (n :: seen) rest

theorem nodup_of_firstRepeated?_eq_none {seen names : List String}
    (h : firstRepeated? seen names = none) : names.Nodup ∧ ∀ n ∈ names, n ∉ seen := by
  induction names generalizing seen with
  | nil => simp
  | cons n rest ih =>
      simp only [firstRepeated?] at h
      split at h
      · cases h
      · rename_i hn
        obtain ⟨hrest, hseen⟩ := ih h
        refine ⟨List.nodup_cons.2 ⟨fun hm => hseen n hm (List.mem_cons_self ..), hrest⟩, ?_⟩
        intro m hm
        rcases List.mem_cons.1 hm with rfl | hm
        · exact hn
        · exact fun hs => hseen m hm (List.mem_cons_of_mem _ hs)

def of (name : String) (columns : List Column) : Except SchemaError Table :=
  match h : firstRepeated? [] (columns.map Column.name) with
  | some column => .error (.duplicateColumn column name)
  | none => .ok ⟨name, columns, (nodup_of_firstRepeated?_eq_none h).1⟩

def column? (t : Table) (name : String) : Option Column := t.columns.find? (·.name = name)

def contains (t : Table) (name : String) : Bool := t.columns.any (·.name = name)

def firstColumn? (t : Table) : Option Column := t.columns.head?

end Table

end RowFilter
