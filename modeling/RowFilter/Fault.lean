import RowFilter.Json
import RowFilter.Text.Lower

/-!
# Faults

What a refused construction or a failed loading reports: a code, a message, details, and the cause
if another failure led to it.
-/

namespace RowFilter

open RowFilter.Text

structure Cause where
  label : String
  message : String
  deriving DecidableEq

namespace Cause

def display (c : Cause) : String := c.label ++ "(" ++ literal c.message ++ ")"

/-- A text that is no value of the kind asked for. -/
def badValue (message : String) : Cause := ⟨"ValueError", message⟩

/-- A value of a sort that has no place where it stands. -/
def badType (message : String) : Cause := ⟨"TypeError", message⟩

/-- Two values of sorts that have no order between them. -/
def unordered (sign left right : String) : Cause :=
  badType ("'" ++ sign ++ "' not supported between instances of '" ++ left ++ "' and '" ++ right ++
    "'")

end Cause

/-- The families of faults; `named` are families of their own directly below the root. -/
inductive Family where
  | base
  | domain
  | validation
  | config
  | missingSetting
  | invalidSetting
  | named (name : String)
  deriving DecidableEq

namespace Family

def name : Family → String
  | .base => "BaseError"
  | .domain => "DomainError"
  | .validation => "ValidationError"
  | .config => "ConfigError"
  | .missingSetting => "MissingRequiredSettingError"
  | .invalidSetting => "InvalidSettingValueError"
  | .named name => name

/-- Puts an underscore between a small ASCII letter or digit and a capital ASCII letter. -/
def separateWords : List Char → List Char
  | [] => []
  | [c] => [c]
  | c :: d :: rest =>
    if (c.isLower || c.isDigit) && d.isUpper then c :: '_' :: separateWords (d :: rest)
    else c :: separateWords (d :: rest)

/-- The name in small letters with underscores, unless the family has a code of its own. -/
def defaultCode (f : Family) : String :=
  match f with
  | .missingSetting => "missing_required_setting"
  | .invalidSetting => "invalid_setting_value"
  | _ => String.ofList (lower (separateWords f.name.toList))

def isDomain (f : Family) : Bool := f = .domain || f = .validation

def isConfig (f : Family) : Bool := f = .config || f = .missingSetting || f = .invalidSetting

end Family

/-- The entries of `errors` tell one violation each and belong to the validation family. -/
structure Fault where
  family : Family
  code : String
  message : String
  detail : List (String × Json)
  cause : Option Cause
  errors : List Json

namespace Fault

/-- A fault with the code of its family; an empty code counts as none. -/
def report (family : Family) (message : String) (detail : List (String × Json) := [])
    (cause : Option Cause := none) (errors : List Json := []) (code : String := "") : Fault :=
  ⟨family, if code = "" then family.defaultCode else code, message, detail, cause, errors⟩

def toJson (f : Fault) : Json :=
  .object <|
    [("code", .text f.code), ("message", .text f.message), ("detail", .object f.detail)]
    ++ (f.cause.map fun c => ("cause", Json.text c.display)).toList
    ++ (if f.family = .validation then [("errors", .list f.errors)] else [])

def summary (f : Fault) : String := f.toJson.toText

def display (f : Fault) : String :=
  f.family.name ++ "(" ++ literal f.code ++ ", " ++ literal f.message ++ ")"

end Fault

end RowFilter
