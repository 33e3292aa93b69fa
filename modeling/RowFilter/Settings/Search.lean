import RowFilter.Log
import RowFilter.Settings

/-!
# Settings of a search

The parameters of a query string that are no filters, and the level of the log.
-/

namespace RowFilter

structure SearchSettings where
  ignored : List String
  logLevel : String
  level_known : (Level.ofName? logLevel).isSome

namespace SearchSettings

/-- Parameters that order, page or select columns. -/
def defaultIgnored : List String := ["select", "order", "limit", "offset", "on_conflict", "columns"]

def defaultLevel : String := "INFO"

def invalidSetting (name : String) (value : Json) (reason : String) : Fault :=
  .report .invalidSetting
    ("Setting '" ++ name ++ "' has invalid value " ++ value.display ++ ": " ++ reason)

def of (ignored : List String) (logLevel : String) : Except Fault SearchSettings :=
  if h : (Level.ofName? logLevel).isSome then .ok ⟨ignored, logLevel, h⟩
  else .error (invalidSetting "log_level" (.text logLevel) "not a logging level name")

def level (s : SearchSettings) : Int := (Level.ofName? s.logLevel).get s.level_known

def values (s : SearchSettings) : SettingValues :=
  [("ignored_params", .list s.ignored), ("log_level", .text s.logLevel)]

def ofValues (values : SettingValues) : Except Objection SearchSettings :=
  let ignored := match values.lookup "ignored_params" with
    | some (.list items) => items
    | _ => defaultIgnored
  let logLevel := match values.lookup "log_level" with
    | some (.text s) => s
    | _ => defaultLevel
  (of ignored logLevel).mapError .fault

def spec : SettingsSpec SearchSettings where
  family := "PGREST_FILTERS"
  settings :=
    [⟨"ignored_params", .list, some (.list defaultIgnored)⟩,
     ⟨"log_level", .text, some (.text defaultLevel)⟩]
  build := ofValues

end SearchSettings

/-! ## Runs of a log -/

namespace Log

/-- The settings are checked before anything else. -/
def configureWith (log : Log) (level : Option Level.Choice) (settingsLevel : Option String)
    (force : Bool) : Except Fault Log := do
  let settings ← settingsLevel.mapM (SearchSettings.of SearchSettings.defaultIgnored)
  return log.configure level (settings.map SearchSettings.level) force

end Log

end RowFilter
