import RowFilter.Text.Literal
import RowFilter.Number.Shortest

/-!
# Data values

The values that a fault or a log line carries, and their text: as JSON data, or as a reader of a
message sees them. Objects keep the order of their fields.
-/

namespace RowFilter

open RowFilter.Number RowFilter.Text

inductive Json where
  | null
  | bool (b : Bool)
  | integer (n : Int)
  | decimal (x : Binary64)
  | text (s : String)
  | list (items : List Json)
  | object (fields : List (String × Json))
  deriving Inhabited

namespace Json

structure Spelling where
  null : String
  yes : String
  no : String
  decimal : DecimalLayout
  text : String → String

/-! ## Text in data -/

/-- Quotes, backslashes and control characters are escaped. -/
def escapeChar (c : Char) : List Char :=
  if c = '"' then ['\\', '"']
  else if c = '\\' then ['\\', '\\']
  else if c = '\n' then ['\\', 'n']
  else if c = '\r' then ['\\', 'r']
  else if c = '\t' then ['\\', 't']
  else if c = '\x08' then ['\\', 'b']
  else if c = '\x0c' then ['\\', 'f']
  else if c.toNat < 0x20 then '\\' :: 'u' :: hexDigits 4 c.toNat
  else [c]

def quote (s : String) : String := String.ofList ('"' :: s.toList.flatMap escapeChar ++ ['"'])

def Spelling.data : Spelling := ⟨"null", "true", "false", .data, quote⟩

def Spelling.message : Spelling := ⟨"None", "True", "False", .plain, literal⟩

/-! ## Values -/

mutual

def render (sp : Spelling) : Json → String
  | .null => sp.null
  | .bool b => if b then sp.yes else sp.no
  | .integer n => toString n
  | .decimal x => sp.decimal.render x
  | .text s => sp.text s
  | .list items => "[" ++ ", ".intercalate (renderItems sp items) ++ "]"
  | .object fields => "\x7b" ++ ", ".intercalate (renderFields sp fields) ++ "\x7d"

def renderItems (sp : Spelling) : List Json → List String
  | [] => []
  | v :: rest => v.render sp :: renderItems sp rest

def renderFields (sp : Spelling) : List (String × Json) → List String
  | [] => []
  | (name, v) :: rest => (sp.text name ++ ": " ++ v.render sp) :: renderFields sp rest

end

def toText (v : Json) : String := v.render .data

def display (v : Json) : String := v.render .message

end Json

end RowFilter
