import RowFilter.Operand.Key
import RowFilter.Settings

/-!
# Settings with a limit

Settings that are refused when one among them exceeds a bound.
-/

namespace RowFilter

open RowFilter.Text

namespace SettingValue

/-- A truth value counts as one or zero. -/
def key? : SettingValue → Option Key
  | .integer n => some (.integer n)
  | .float x => some (.float x)
  | .bool b => some (.integer (if b then 1 else 0))
  | _ => none

def sortName : SettingValue → String
  | .null => "NoneType"
  | .bool _ => "bool"
  | .integer _ => "int"
  | .float _ => "float"
  | .text _ => "str"
  | .list _ => "list"
  | .tuple _ => "tuple"

/-- Whether a value is above a bound, for two numbers, two texts or two sequences of one kind. -/
def exceeds (v bound : SettingValue) : Except Cause Bool :=
  match v, bound with
  | .text s, .text t => .ok (t < s)
  | .list xs, .list ys | .tuple xs, .tuple ys => .ok (ys < xs)
  | _, _ =>
    match v.key?, bound.key? with
    | some a, some b => .ok (b.lt a)
    | _, _ => .error (.unordered ">" v.sortName bound.sortName)

end SettingValue

/-- The bound of a setting and the failure beyond it. -/
structure Limit where
  name : String
  bound : SettingValue
  failure : Cause

/-- What the limit has against values: that its setting is beyond the bound, or has no order with
it. -/
def Limit.objection? (l : Limit) (values : SettingValues) : Option Cause :=
  (values.lookup l.name).bind fun v =>
    match v.exceeds l.bound with
    | .ok beyond => if beyond then some l.failure else none
    | .error c => some c

/-- Settings that are kept by name, with at most one limit. -/
def SettingsSpec.limited (family : String) (settings : List Setting) (limit : Option Limit) :
    SettingsSpec SettingValues where
  family
  settings
  build values :=
    match limit.bind (·.objection? values) with
    | some c => .error (.failure c)
    | none => .ok values

/-! ## Declaring settings -/

/-- The first required setting that stands after one with a default. -/
def Setting.misplaced? : List Setting → Option Setting
  | [] => none
  | s :: rest =>
    if s.fallback.isSome then rest.find? (·.fallback.isNone) else misplaced? rest

/-- Settings declared in order; those with a default come last. -/
def SettingsSpec.declare (family : String) (settings : List Setting) (limit : Option Limit) :
    Except Cause (SettingsSpec SettingValues) :=
  match Setting.misplaced? settings with
  | some s => .error (.badType ("non-default argument " ++ literal s.name ++
      " follows default argument"))
  | none => .ok (.limited family settings limit)

end RowFilter
