import RowFilter.Operation.Edit
import RowFilter.Settings.Search
import RowFilter.Wire.Codec

/-!
# Search sessions

The filters of one view of a table, in the order in which they were added.
-/

namespace RowFilter

inductive Position where
  | atFront
  | atEnd
  deriving DecidableEq, Repr

def Position.ofName (s : String) : Except Cause Position :=
  if s = "prepend" then .ok .atFront
  else if s = "append" then .ok .atEnd
  else .error (.badValue (Text.literal s ++ " is not a valid Position"))

structure Session where
  table : Table
  filters : List Filter
  deriving DecidableEq

namespace Session

/-! ## Reading a query string -/

/-- The fragments of a query string without the question marks before them. -/
def pieces (query : String) : List String :=
  (((query.toList.dropWhile (· = '?')).splitOn '&').filter (· ≠ [])).map String.ofList

/-- The undecoded text before the first equals sign. -/
def pieceKey (piece : String) : String := String.ofList (piece.toList.takeWhile (· ≠ '='))

def filterPieces (ignored : List String) (query : String) : List String :=
  (pieces query).filter (pieceKey · ∉ ignored)

def readPiece (table : Table) (piece : String) : Except Event Filter :=
  match Wire.parseIn table piece with
  | some f => .ok f
  | none => .error (.fragmentDropped table.name (Wire.fragmentColumn? piece) piece)

def ofQuery (table : Table) (ignored : List String) (query : String) : Session :=
  ⟨table, (filterPieces ignored query).filterMap fun p => (readPiece table p).toOption⟩

/-- The events of reading a query string, one for each fragment that was dropped. -/
def queryEvents (table : Table) (ignored : List String) (query : String) : List Event :=
  (filterPieces ignored query).filterMap fun p =>
    match readPiece table p with
    | .ok _ => none
    | .error e => some e

/-! ## Changing filters -/

def isBlank (s : Session) : Bool := s.filters.isEmpty

def size (s : Session) : Nat := s.filters.length

/-- Adds the default filter of the first column; a table without columns has none. -/
def add (s : Session) (p : Position) : Session :=
  match s.table.firstColumn? with
  | none => s
  | some c =>
    match p with
    | .atFront => { s with filters := .defaultFor c :: s.filters }
    | .atEnd => { s with filters := s.filters ++ [.defaultFor c] }

/-- The place that an index names; a negative one names none. -/
def place? (s : Session) (index : Int) : Option Nat :=
  if 0 ≤ index && index < s.size then some index.toNat else none

def remove (s : Session) (index : Int) : Session :=
  match s.place? index with
  | some i => { s with filters := s.filters.eraseIdx i }
  | none => s

/-- A filter that its column does not allow gives way to the default of the column. -/
def settle? (s : Session) (f : Filter) : Option Filter :=
  (s.table.column? f.column).map fun c => if c.accepts f.operation then f else .defaultFor c

/-- Replaces a filter, possibly by one on another column of the table. -/
def update (s : Session) (index : Int) (f : Filter) : Session :=
  match s.place? index, s.settle? f with
  | some i, some f => { s with filters := s.filters.set i f }
  | _, _ => s

/-! ## Writing a query string -/

def queryParams (s : Session) : List String := s.filters.flatMap Filter.fragments

def queryString (s : Session) : String := "&".intercalate s.queryParams

def writeEvents (s : Session) : List Event := s.filters.flatMap Filter.writeEvents

def reload (s : Session) : Session := ofQuery s.table SearchSettings.defaultIgnored s.queryString

/-! ## Runs of changes -/

inductive Change where
  | ofQuery (ignored : List String) (query : String)
  | add (p : Position)
  | remove (index : Int)
  | update (index : Int) (f : Filter)
  deriving DecidableEq

def change (s : Session) : Change → Session
  | .ofQuery ignored query => ofQuery s.table ignored query
  | .add p => s.add p
  | .remove index => s.remove index
  | .update index f => s.update index f

def changeAll (s : Session) (changes : List Change) : Session := changes.foldl change s

def changeEvents (s : Session) : Change → List Event
  | .ofQuery ignored query => queryEvents s.table ignored query
  | _ => []

/-- The events of a reload: of writing the filters and of reading them back. -/
def reloadEvents (s : Session) : List Event :=
  s.writeEvents ++ queryEvents s.table SearchSettings.defaultIgnored s.queryString

end Session

end RowFilter
