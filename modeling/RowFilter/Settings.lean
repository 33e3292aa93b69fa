import RowFilter.Fault
import RowFilter.Number.Decimal
import RowFilter.Text.Upper

/-!
# Settings

Typed settings are read from named texts, such as the variables of an environment.
-/

namespace RowFilter

open RowFilter.Number RowFilter.Text

/-- A bare list or tuple does not say what its items are. -/
inductive SettingType where
  | text
  | integer
  | float
  | bool
  | list
  | tuple
  | bareList
  | bareTuple
  deriving DecidableEq, Repr

inductive SettingValue where
  | null
  | bool (b : Bool)
  | integer (n : Int)
  | float (x : Binary64)
  | text (s : String)
  | list (items : List String)
  | tuple (items : List String)
  deriving DecidableEq

/-! ## Values from texts -/

namespace SettingType

/-- The texts that stand for true, in any case. -/
def trueWords : List String := ["1", "true", "yes", "on"]

/-- The items between commas without blanks around them and without empty ones. -/
def items (raw : String) : List String :=
  (((raw.toList.splitOn ',').map trim).filter (· ≠ [])).map String.ofList

/-- A message about a text shows at most this many characters of its quoted form. -/
def maxQuoted : Nat := 200

def integerCause (raw : String) : IntegerError → Cause
  | .malformed =>
    .badValue ("invalid literal for int() with base 10: " ++
      String.ofList ((literal raw).toList.take maxQuoted))
  | .tooLong digits =>
    .badValue ("Exceeds the limit (4300 digits) for integer string conversion: value has " ++
      toString digits ++ " digits; use sys.set_int_max_str_digits() to increase the limit")

/-- The value of a text. It is cut into items only where the type says what they are. -/
def coerce (t : SettingType) (raw : String) : Except Cause SettingValue :=
  match t with
  | .text | .bareList | .bareTuple => .ok (.text raw)
  | .integer => (readInteger raw.toList).map .integer |>.mapError (integerCause raw)
  | .float =>
    match readDecimal? raw.toList with
    | some x => .ok (.float x)
    | none => .error (.badValue ("could not convert string to float: " ++ literal raw))
  | .bool => .ok (.bool (String.ofList (lower (trim raw.toList)) ∈ trueWords))
  | .list => .ok (.list (items raw))
  | .tuple => .ok (.tuple (items raw))

end SettingType

/-! ## Environments -/

/-- Variables with their values; the first entry of a name counts. -/
structure Environment where
  entries : List (String × String)

namespace Environment

def get? (env : Environment) (key : String) : Option String := env.entries.lookup key

def layer (top bottom : Environment) : Environment := ⟨top.entries ++ bottom.entries⟩

/-- The variables of the process go first unless the file overrides them. -/
def merge (file process : Environment) (override : Bool) : Environment :=
  if override then file.layer process else process.layer file

end Environment

/-- A reader of files that assign values to variables. What it makes of a file is given: the variables
that the file names, each with its value, or without one where no equals sign follows. -/
structure FileReader where
  values : String → List (String × Option String)

/-- The variables of a file that have a value. -/
def FileReader.environment (reader : FileReader) (path : String) : Environment :=
  ⟨(reader.values path).filterMap fun (key, value) => value.map (key, ·)⟩

/-! ## Loading -/

/-- A setting without a default is required. -/
structure Setting where
  name : String
  type : SettingType
  fallback : Option SettingValue

abbrev SettingValues := List (String × SettingValue)

/-- Why values are refused as a whole: with a fault of their own, or with a failure that becomes the
cause of one. -/
inductive Objection where
  | fault (f : Fault)
  | failure (c : Cause)

/-- Settings that are loaded together: the beginning of their variables, the settings in order and
what is made of their values. -/
structure SettingsSpec (α : Type) where
  family : String
  settings : List Setting
  build : SettingValues → Except Objection α

/-- The variable of a setting: family and name in capitals, without underscores at the front. -/
def envKey (family name : String) : String :=
  String.ofList ((upper (family ++ "_" ++ name).toList).dropWhile (· = '_'))

namespace SettingsSpec

variable {α : Type}

def missing (key : String) : Fault :=
  .report .missingSetting ("Required setting '" ++ key ++ "' is missing")

def unreadable (key raw : String) (c : Cause) : Fault :=
  .report .config ("Cannot read " ++ key ++ "=" ++ literal raw) [("setting", .text key)] (some c)

def refused (c : Cause) : Fault :=
  .report .config ("Failed to load settings: " ++ c.message) [] (some c)

/-- The value of one setting: that of its variable, or else its default. -/
def readSetting (spec : SettingsSpec α) (env : Environment) (s : Setting) :
    Except Fault (String × SettingValue) :=
  let key := envKey spec.family s.name
  match env.get? key with
  | some raw =>
    match s.type.coerce raw with
    | .ok v => .ok (s.name, v)
    | .error c => .error (unreadable key raw c)
  | none =>
    match s.fallback with
    | some v => .ok (s.name, v)
    | none => .error (missing key)

/-- Reads the settings in order up to the first fault, and then builds. -/
def load (spec : SettingsSpec α) (env : Environment) : Except Fault α := do
  let values ← spec.settings.mapM (spec.readSetting env)
  match spec.build values with
  | .ok a => .ok a
  | .error (.fault f) => .error f
  | .error (.failure c) => .error (refused c)

/-- Loads from the variables of a file and of the process. -/
def loadFile (spec : SettingsSpec α) (reader : FileReader) (path : String) (process : Environment)
    (override : Bool) : Except Fault α :=
  spec.load ((reader.environment path).merge process override)

end SettingsSpec

end RowFilter
