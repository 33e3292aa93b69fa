import RowFilter.Fault

/-!
# Plain values

Single values that a result may hold, with their equality and their display.
-/

namespace RowFilter

inductive Scalar where
  | null
  | bool (b : Bool)
  | integer (n : Int)
  | text (s : String)
  deriving DecidableEq

namespace Scalar

def toJson : Scalar → Json
  | .null => .null
  | .bool b => .bool b
  | .integer n => .integer n
  | .text s => .text s

/-- Truth values count as one and zero, so equal values have one representative. -/
def representative : Scalar → Scalar
  | .bool b => .integer (if b then 1 else 0)
  | v => v

def sortName : Scalar → String
  | .null => "NoneType"
  | .bool _ => "bool"
  | .integer _ => "int"
  | .text _ => "str"

def add (a b : Scalar) : Except Cause Scalar :=
  match a.representative, b.representative with
  | .integer m, .integer n => .ok (.integer (m + n))
  | .text s, .text t => .ok (.text (s ++ t))
  | .text _, _ =>
    .error (.badType ("can only concatenate str (not \"" ++ b.sortName ++ "\") to str"))
  | _, _ =>
    .error (.badType ("unsupported operand type(s) for +: '" ++ a.sortName ++ "' and '" ++
      b.sortName ++ "'"))

/-- Whether a value is above another one, for two numbers or two texts. -/
def exceeds (a b : Scalar) : Except Cause Bool :=
  match a.representative, b.representative with
  | .integer m, .integer n => .ok (n < m)
  | .text s, .text t => .ok (t < s)
  | _, _ => .error (.unordered ">" a.sortName b.sortName)

def toOption : Scalar → Option Scalar
  | .null => none
  | v => some v

end Scalar

namespace OptionalValue

def display : Option Scalar → String
  | some v => "Some(" ++ v.toJson.display ++ ")"
  | none => "Nothing"

def add (x : Option Scalar) (n : Scalar) : Except Cause (Option Scalar) := x.mapM (·.add n)

/-- Keeps a value only if it is above another one. -/
def above (x : Option Scalar) (n : Scalar) : Except Cause (Option Scalar) := do
  match x with
  | some v => return if ← v.exceeds n then some v else none
  | none => return none

/-- Two optional values are the same if both are absent or hold equal values. -/
def same (a b : Option Scalar) : Bool := a.map Scalar.representative = b.map Scalar.representative

def countDistinct (vs : List (Option Scalar)) : Nat :=
  (vs.map (·.map Scalar.representative)).eraseDups.length

def value : Option Scalar → Except Cause Scalar
  | some v => .ok v
  | none => .error (.badValue "Called unwrap() on Nothing")

end OptionalValue

end RowFilter
