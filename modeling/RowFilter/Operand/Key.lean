import RowFilter.Operand

/-!
# The order of operands

Operands are ordered by what they mean: those that spell a number, a day or a moment come first in
the order of their values, all others follow in the order of their texts.
-/

namespace RowFilter

open RowFilter.Calendar RowFilter.Number

/-- What an operand is compared by; moments are compared in universal time. -/
inductive Key where
  | integer (n : Int)
  | float (x : Binary64)
  | date (d : Date)
  | time (t : LocalTime)
  | raw (s : String)
  deriving DecidableEq

namespace Key

/-- The place of a kind of key among keys of different kinds; numbers share one. -/
def rank : Key → Nat
  | .integer _ | .float _ => 0
  | .date _ => 1
  | .time _ => 2
  | .raw _ => 3

def lt : Key → Key → Bool
  | .integer m, .integer n => m < n
  | .integer n, .float x => Binary64.intLt n x
  | .float x, .integer n => x.ltInt n
  | .float x, .float y => x.lt y
  | .date a, .date b => a.lt b
  | .time a, .time b => a.lt b
  | .raw a, .raw b => a < b
  | a, b => a.rank < b.rank

end Key

namespace Operand

/-- Texts, operands that spell nothing and moments beyond the calendar are compared as they are
written. -/
def key (o : Operand) : Key :=
  match o.value? with
  | some (.integer n) => .integer n
  | some (.float x) => .float x
  | some (.date d) => .date d
  | some (.time m) =>
    match m.universal? with
    | some t => .time t
    | none => .raw o.raw
  | some (.text _) | none => .raw o.raw

end Operand

end RowFilter
