import RowFilter.Event
import RowFilter.Fault
import RowFilter.Text.Upper

/-!
# Logging

A configuration sends what is reported through a pipeline to the handlers of the root logger. What
the logging library makes of a report stands for itself: it is given, with what it documents.
-/

namespace RowFilter

/-! ## Levels -/

namespace Level

def names : List (String × Int) :=
  [("CRITICAL", 50), ("FATAL", 50), ("ERROR", 40), ("WARN", 30), ("WARNING", 30), ("INFO", 20),
   ("DEBUG", 10), ("NOTSET", 0)]

def ofName? (name : String) : Option Int := names.lookup (String.ofList (Text.upper name.toList))

def info : Int := 20

inductive Choice where
  | number (n : Int)
  | name (s : String)
  deriving DecidableEq

/-- An unknown name stands for the level of information. -/
def Choice.resolve : Choice → Int
  | .number n => n
  | .name s => (ofName? s).getD info

end Level

inductive Severity where
  | debug
  | info
  | warning
  | error
  | critical
  deriving DecidableEq, Repr

namespace Severity

def level : Severity → Int
  | .debug => 10
  | .info => 20
  | .warning => 30
  | .error => 40
  | .critical => 50

def name : Severity → String
  | .debug => "debug"
  | .info => "info"
  | .warning => "warning"
  | .error => "error"
  | .critical => "critical"

end Severity

/-! ## Fields -/

abbrev Fields := List (String × Json)

namespace Fields

/-- The number of characters of a text taken from user input that a line shows. -/
def maxShown : Nat := 200

def cutText (s : String) : String :=
  if maxShown < s.length then String.ofList (s.toList.take maxShown) ++ "..." else s

def isCut (name : String) : Bool := name = "fragment" || name = "value"

def truncate (fields : Fields) : Fields :=
  fields.map fun (name, v) =>
    match v with
    | .text s => (name, .text (if isCut name then cutText s else s))
    | v => (name, v)

end Fields

/-! ## Reports -/

/-- The logger that reports go to when they name none. -/
def rootLogger : String := "root"

def loggerName (name : Option String) : String :=
  match name with
  | none | some "" => rootLogger
  | some n => n

/-- An event with its own fields and those that are bound to its logger. -/
structure Report where
  severity : Severity
  logger : String
  bound : Fields
  event : String
  fields : Fields

/-- A report to a logger with bound fields. A logger has its name already, so none of the fields
bound to it can be `name`. -/
def Report.of (severity : Severity) (logger : Option String) (bound : Fields) (event : String)
    (fields : Fields) : Except Cause Report :=
  if bound.any (·.1 = "name") then
    .error (.badType "get_logger() got multiple values for argument 'name'")
  else .ok ⟨severity, loggerName logger, bound, event, fields⟩

def Event.report (e : Event) : Report := ⟨.debug, e.logger, [], e.name, e.fields⟩

/-! ## Pipelines and handlers -/

/-- A step that an event passes on its way to a line: one of the logging library, or a function on
its fields. -/
inductive Processor where
  | filterByLevel
  | mergeContextvars
  | addLoggerName
  | addLogLevel
  | timeStamper (format : String)
  | stackInfoRenderer
  | formatExcInfo
  | wrapForFormatter
  | removeProcessorsMeta
  | jsonRenderer
  | own (f : Fields → Fields)

/-- What the loggers of a pipeline write to: the standard output, or the standard loggers. -/
inductive Backend where
  | printing
  | standard
  deriving DecidableEq

structure Pipeline where
  processors : List Processor
  factory : Backend
  wrapper : Backend
  cached : Bool

inductive Stream where
  | stdout
  | stderr
  deriving DecidableEq

/-- A handler that writes to a stream, with the steps of its formatter. Every handler that is made
has a number of its own. -/
structure Handler where
  number : Nat
  stream : Stream
  formatter : List Processor

/-- The logger that the reports to all loggers reach. -/
structure Root where
  level : Int
  handlers : List Handler

namespace Root

def clearHandlers (root : Root) : Root := { root with handlers := [] }

/-- A handler is not added twice. -/
def addHandler (root : Root) (h : Handler) : Root :=
  if root.handlers.any (·.number = h.number) then root
  else { root with handlers := root.handlers ++ [h] }

def setLevel (root : Root) (level : Int) : Root := { root with level }

end Root

/-! ## The log -/

/-- The state that a configuration changes. Without a pipeline the library is as it comes, and `made`
counts the handlers made so far. -/
structure Log where
  configured : Bool
  pipeline : Option Pipeline
  root : Root
  made : Nat

namespace Log

/-- An explicit level counts before that of the settings; without both, information is logged. -/
def resolve (level : Option Level.Choice) (settings : Option Int) : Int :=
  match level with
  | some choice => choice.resolve
  | none => settings.getD Level.info

def pipelineToHandlers : Pipeline where
  processors :=
    [.filterByLevel, .mergeContextvars, .own Fields.truncate, .addLoggerName, .addLogLevel,
     .timeStamper "iso", .stackInfoRenderer, .formatExcInfo, .wrapForFormatter]
  factory := .standard
  wrapper := .standard
  cached := true

/-- The handler that the next configuration makes; its lines are JSON objects. -/
def newHandler (log : Log) : Handler := ⟨log.made, .stderr, [.removeProcessorsMeta, .jsonRenderer]⟩

def renew (log : Log) (level : Int) : Log where
  configured := true
  pipeline := some pipelineToHandlers
  root := ((log.root.clearHandlers).addHandler log.newHandler).setLevel level
  made := log.made + 1

/-- Only the first configuration has an effect, and those that are forced. -/
def configure (log : Log) (level : Option Level.Choice) (settings : Option Int) (force : Bool) :
    Log :=
  if log.configured && !force then log else log.renew (resolve level settings)

end Log

/-! ## The logging library -/

/-- What becomes of a report: whether the library prints it on its own, and the lines that handlers
write. -/
@[ext]
structure Output where
  printed : Bool
  lines : List (Handler × Fields)

/-- What a logging library makes of a report under a pipeline, if one is configured, and with a root
logger. -/
structure LogLibrary where
  emit : Option Pipeline → Root → Report → Output

/-- A library that does what is documented for pipelines to handlers, with lines of its own. -/
def LogLibrary.filtering (line : Pipeline → Report → Fields) : LogLibrary where
  emit
    | none, _, _ => ⟨true, []⟩
    | some p, root, r =>
      if root.level ≤ r.severity.level then ⟨false, root.handlers.map fun h => (h, line p r)⟩
      else ⟨false, []⟩

/-- A logger may keep the pipeline that it was first used with, which is no other one: all
configurations set the same. -/
def Log.emit (lib : LogLibrary) (log : Log) (r : Report) : Output :=
  lib.emit log.pipeline log.root r

end RowFilter
