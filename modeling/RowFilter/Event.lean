import RowFilter.Json

/-!
# Events

What reading and writing filters reports without failing.
-/

namespace RowFilter

inductive Event where
  | fragmentDropped (table : String) (column : Option String) (fragment : String)
  | dayNotWritten (column value : String)
  deriving DecidableEq

namespace Event

def name : Event → String
  | .fragmentDropped .. => "filter_fragment_dropped"
  | .dayNotWritten .. => "in_date_not_serialized"

def logger : Event → String
  | .fragmentDropped .. => "pgrest_filters.search.session"
  | .dayNotWritten .. => "pgrest_filters.filters.codec"

def fields : Event → List (String × Json)
  | .fragmentDropped table column fragment =>
    [("table", .text table), ("column", (column.map Json.text).getD .null),
     ("fragment", .text fragment)]
  | .dayNotWritten column value => [("column", .text column), ("value", .text value)]

end Event

end RowFilter
