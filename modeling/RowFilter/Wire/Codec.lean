import RowFilter.Event
import RowFilter.Column
import RowFilter.Wire.Group
import RowFilter.Wire.Percent

/-!
# Filters on the wire

A fragment of a query string is a key, an equals sign and a value, both percent-encoded. The key is
the column of one condition, or announces a group.
-/

namespace RowFilter

open RowFilter.Calendar RowFilter.Wire

namespace Wire

def splitFragment? (fragment : List Char) : Option (List Char × List Char) := do
  let (key, value) := cutAt '=' fragment
  let value ← value
  if key = [] then none else some (Percent.decode key, Percent.decode value)

/-! ## Reading -/

def readForms? (forms : List Form) (column : Column) (text : List Char) : Option Operation :=
  forms.findSome? (·.read? column text)

def readOperation? (forms : List Form) (column : Column) (fragment : String) : Option Operation := do
  let (key, text) ← splitFragment? fragment.toList
  if key = groupKey then readGroup? column (← Leg.ofGroup? text)
  else if key = column.name.toList then readForms? forms column text
  else none

def parseWith (forms : List Form) (column : Column) (fragment : String) : Option Filter := do
  let op ← readOperation? forms column fragment
  if column.accepts op then some ⟨column.name, op⟩ else none

def parse (column : Column) (fragment : String) : Option Filter := parseWith Form.all column fragment

/-- The column that a fragment names, in a group that of its first leg. -/
def fragmentColumn? (fragment : String) : Option String := do
  let (key, text) ← splitFragment? fragment.toList
  if key = groupKey then
    let first ← (← Leg.ofGroup? text).head?
    some (String.ofList first.column)
  else some (String.ofList key)

/-- The filter that a fragment puts on the column of the table that it names. -/
def parseIn (table : Table) (fragment : String) : Option Filter := do
  let column ← table.column? (← fragmentColumn? fragment)
  parse column fragment

/-! ## Writing -/

def encodeValue (place : Quoted.Place) (raw : String) : List Char :=
  Percent.encode (Quoted.encode place raw.toList)

def single (column : String) (condition : List Char) : String :=
  String.ofList (Percent.encode column.toList ++ '=' :: condition)

def leg (column : String) (c : Comparison) (raw : String) : List Char :=
  Percent.encode column.toList ++ '.' :: c.word ++ '.' :: encodeValue .nested raw

def group (first second : List Char) : String :=
  String.ofList (groupKey ++ '=' :: '(' :: first ++ ',' :: second ++ [')'])

def membersText (s : ChoiceSet) : List Char :=
  '(' :: [','].intercalate (s.selected.map (encodeValue .nested)) ++ [')']

def comparandText (c : Comparison) (raw : String) : List Char :=
  match c with
  | .contains => '*' :: Percent.encode raw.toList ++ ['*']
  | .startsWith => Percent.encode raw.toList ++ ['*']
  | .endsWith => '*' :: Percent.encode raw.toList
  | _ => encodeValue .alone raw

def midnightText (d : Date) : String := String.ofList (d.text ++ "T00:00".toList)

/-- The first moments of the day that a text spells and of the following day. -/
def dayBounds? (raw : String) : Option (String × String) := do
  let day ← Date.ofText? (Text.trim raw.toList)
  let next ← day.next?
  some (midnightText day, midnightText next)

end Wire

/-- The fragment of a filter. Only a day can fail to be written: if its text spells none, or the
last one of the calendar. -/
def Filter.write (f : Filter) : Except Event String :=
  match f.operation with
  | .compare c o => .ok (single f.column (c.word ++ '.' :: comparandText c o.raw))
  | .between l u =>
    .ok (group (leg f.column .greaterOrEqual l.raw) (leg f.column .lesserOrEqual u.raw))
  | .inDate d =>
    match dayBounds? d.raw with
    | some (first, last) =>
      .ok (group (leg f.column .greaterOrEqual first) (leg f.column .lesserThan last))
    | none => .error (.dayNotWritten f.column d.raw)
  | .check c | .checkOver c _ => .ok (single f.column c.text)
  | .truth value => .ok (single f.column (truthText value))
  | .member m s => .ok (single f.column (m.word ++ '.' :: membersText s))

def Filter.fragments (f : Filter) : List String := f.write.toOption.toList

def Filter.writeEvents (f : Filter) : List Event :=
  match f.write with
  | .ok _ => []
  | .error e => [e]

end RowFilter
