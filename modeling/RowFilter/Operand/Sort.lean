import RowFilter.Fault
import RowFilter.Operand.Key

/-!
# Sorting operands

Operands are sorted by their keys. Numbers, days and moments have no order between them, so sorting
ends with a failure as soon as two of them meet.
-/

namespace RowFilter

/-! ## Sorting with an order that may fail -/

namespace Sorting

variable {α ε : Type} (before : α → α → Except ε Bool)

/-- The values that continue a run, the last one first, and what follows them. A run goes down if
each value comes before the last one, and up if none does. -/
def extendRun (down : Bool) : List α → List α → Except ε (List α × List α)
  | last :: run, v :: rest => do
    if (← before v last) = down then extendRun down (v :: last :: run) rest
    else return (last :: run, v :: rest)
  | run, rest => .ok (run, rest)

def leadingRun : List α → Except ε (List α × List α)
  | a :: b :: rest => do
    let down ← before b a
    let (run, rest) ← extendRun before down [b, a] rest
    return (if down then run else run.reverse, rest)
  | vs => .ok (vs, [])

/-- Puts a value behind all values of a sorted list that it does not come before; halves of the list
are ruled out by the value in the middle. -/
def insertSorted (v : α) (sorted : List α) : Except ε (List α) :=
  match _h : sorted.drop (sorted.length / 2) with
  | [] => .ok [v]
  | middle :: back => do
    let front := sorted.take (sorted.length / 2)
    if ← before v middle then return (← insertSorted v front) ++ middle :: back
    else return front ++ middle :: (← insertSorted v back)
termination_by sorted.length
decreasing_by
  all_goals
    have := congrArg List.length _h
    simp at this ⊢
    omega

def sort (vs : List α) : Except ε (List α) := do
  let (run, rest) ← leadingRun before vs
  rest.foldlM (fun sorted v => insertSorted before v sorted) run

end Sorting

/-! ## Keys that can meet -/

namespace Key

/-- Texts come after all other keys, which have an order only among keys of one rank. -/
def comparable : Key → Key → Bool
  | .raw _, _ | _, .raw _ => true
  | a, b => a.rank = b.rank

def sortName : Key → String
  | .integer _ => "int"
  | .float _ => "float"
  | .date _ => "datetime.date"
  | .time _ => "datetime.datetime"
  | .raw _ => "str"

/-- The failure to order two keys; that of a day and a moment names them in one order only. -/
def clash : Key → Key → Cause
  | .date _, .time _ | .time _, .date _ =>
    .badType "can't compare datetime.datetime to datetime.date"
  | a, b => .unordered "<" a.sortName b.sortName

/-- Strictly before, if the two keys have an order. -/
def before (a b : Key) : Except Cause Bool :=
  if a.comparable b then .ok (a.lt b) else .error (a.clash b)

end Key

/-- In the order of the keys; operands with equal keys keep their order. -/
def Operand.sort (os : List Operand) : Except Cause (List Operand) :=
  (Sorting.sort (fun a b => a.1.before b.1) (os.map fun o => (o.key, o))).map (·.map Prod.snd)

end RowFilter
