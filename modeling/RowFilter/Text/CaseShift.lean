/-!
# Case shifts

A case mapping is mostly a constant distance over a run of code points; the runs are listed in
ascending order.
-/

namespace RowFilter.Text

/-- The code points `first`, `first + stride`, … up to `last` move by `shift`. -/
structure CaseShift where
  first : Nat
  last : Nat
  stride : Nat
  shift : Int

namespace CaseShift

def covers (r : CaseShift) (n : Nat) : Bool :=
  r.first ≤ n && n ≤ r.last && (n - r.first) % r.stride == 0

/-- The image under the first run that covers the code point, or the code point itself. -/
def apply (runs : List CaseShift) (n : Nat) : Nat :=
  match runs.find? (·.covers n) with
  | some r => (n + r.shift).toNat
  | none => n

end CaseShift

/-- One character mapped through the expansions first, then through the runs. -/
def mapCase (expansions : List (Nat × List Nat)) (runs : List CaseShift) (c : Char) : List Char :=
  match expansions.lookup c.toNat with
  | some ns => ns.map Char.ofNat
  | none => [Char.ofNat (CaseShift.apply runs c.toNat)]

end RowFilter.Text
