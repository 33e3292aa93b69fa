import RowFilter.Operation
import RowFilter.Wire.Quoted
import RowFilter.Wire.TopLevel

/-!
# Forms of a condition

A condition on one column is an operator word followed by its value. The forms are tried in order,
and the first that fits decides.
-/

namespace RowFilter

open RowFilter.Wire

def Comparison.word : Comparison → List Char
  | .equals => "eq".toList
  | .contains | .startsWith | .endsWith => "ilike".toList
  | .lesserThan => "lt".toList
  | .greaterThan => "gt".toList
  | .lesserOrEqual => "lte".toList
  | .greaterOrEqual => "gte".toList

def Membership.word : Membership → List Char
  | .oneOf => "in".toList
  | .noneOf => "not.in".toList

def Check.text : Check → List Char
  | .isNull => "is.null".toList
  | .inFuture => "gt.now".toList
  | .inPast => "lt.now".toList

def truthText (value : Bool) : List Char := if value then "is.true".toList else "is.false".toList

namespace Wire

/-- What follows a given beginning of a text. -/
def after? : List Char → List Char → Option (List Char)
  | [], s => some s
  | _ :: _, [] => none
  | c :: word, d :: s => if c = d then after? word s else none

theorem after?_eq_some_iff {word s rest : List Char} :
    after? word s = some rest ↔ s = word ++ rest := by
  induction word generalizing s with
  | nil => simp [after?]
  | cons c word ih =>
      cases s with
      | nil => simp [after?]
      | cons d s =>
          by_cases h : c = d
          · simp [after?, h, ih]
          · simp [after?, h, Ne.symm h]

def value? (word text : List Char) : Option (List Char) := after? (word ++ ['.']) text

/-! ## Patterns -/

/-- The text between the wildcards of a pattern. -/
def patternText? : Comparison → List Char → Option (List Char)
  | .contains, '*' :: rest => if rest.getLast? = some '*' then some rest.dropLast else none
  | .startsWith, body => if body.getLast? = some '*' then some body.dropLast else none
  | .endsWith, '*' :: rest => some rest
  | _, _ => none

/-- The operand text of a comparison: a pattern stands between wildcards, any other value may be
quoted. -/
def comparand? (c : Comparison) (text : List Char) : Option (List Char) :=
  match c with
  | .contains | .startsWith | .endsWith => (value? c.word text).bind (patternText? c)
  | _ => (value? c.word text).map Quoted.decode

/-! ## Forms -/

inductive Form where
  | constant
  | now
  | compare (c : Comparison)
  | member (m : Membership)
  deriving DecidableEq, Repr

namespace Form

/-- A pattern with both wildcards comes before those with one, and the present moment before any
other operand. -/
def all : List Form :=
  [.constant, .compare .equals, .compare .contains, .compare .startsWith, .compare .endsWith, .now,
   .compare .lesserOrEqual, .compare .greaterOrEqual, .compare .lesserThan, .compare .greaterThan,
   .member .noneOf, .member .oneOf]

def read? (f : Form) (column : Column) (text : List Char) : Option Operation :=
  match f with
  | .constant =>
    if text = truthText true then some (.truth true)
    else if text = truthText false then some (.truth false)
    else if text = Check.isNull.text then some (.check .isNull)
    else none
  | .now =>
    if text = Check.inFuture.text then some (.check .inFuture)
    else if text = Check.inPast.text then some (.check .inPast)
    else none
  | .compare c => do
    let raw ← comparand? c text
    let operand ← Operand.ofColumn? column (String.ofList raw)
    some (.compare c operand)
  | .member m =>
    if column.kind = .enum then do
      let inner ← TopLevel.unwrapParens? (← value? m.word text)
      let items := (TopLevel.split [','] inner).map fun item => String.ofList (Quoted.decode item)
      some (.member m (.ofKnown column.choices items))
    else none

end Form

end Wire

end RowFilter
