/-
**Settings.**

Settings come from the variables of the environment, each with a default. The numbers among them are
read in a fixed order, so the first that is no integer is reported.
-/
import Recurrence.Number.Double
import Recurrence.Text.Numeral
import Recurrence.Text.Uppercase

namespace Recurrence

/-- The settings of the service. -/
structure Settings where
  databaseUrl : Text
  defaultPreviewCount : Int
  maxPreviewCount : Int
  appHost : Text
  appPort : Int
  sqliteBusyTimeoutMs : Int
  logLevel : Text
deriving DecidableEq

namespace Settings

/-- The settings when no variable is set. -/
def default : Settings where
  databaseUrl := "sqlite:///./recurpreview.db"
  defaultPreviewCount := 20
  maxPreviewCount := 500
  appHost := "0.0.0.0"
  appPort := 8000
  sqliteBusyTimeoutMs := 5000
  logLevel := "INFO"

/-- The integer in a variable, or its default. -/
def integer (environment : List (Text × Text)) (name : String) (otherwise : Int) :
    Except NumeralError Int :=
  match entryNamed? name environment with
  | some written => written.integer
  | none => .ok otherwise

/-- The settings in an environment. -/
def ofEnvironment (environment : List (Text × Text)) : Except NumeralError Settings := do
  let text (name : String) (otherwise : Text) := (entryNamed? name environment).getD otherwise
  let defaultPreviewCount ←
    integer environment "DEFAULT_PREVIEW_COUNT" default.defaultPreviewCount
  let maxPreviewCount ← integer environment "MAX_PREVIEW_COUNT" default.maxPreviewCount
  let appPort ← integer environment "APP_PORT" default.appPort
  let sqliteBusyTimeoutMs ←
    integer environment "SQLITE_BUSY_TIMEOUT_MS" default.sqliteBusyTimeoutMs
  return {
    databaseUrl := text "DATABASE_URL" default.databaseUrl
    defaultPreviewCount
    maxPreviewCount
    appHost := text "APP_HOST" default.appHost
    appPort
    sqliteBusyTimeoutMs
    logLevel := (text "LOG_LEVEL" default.logLevel).uppercase }

end Settings

/-! ### The database -/

/-- How to connect to a database that is a file: from any thread, waiting so many seconds for
another writer. -/
structure ConnectOptions where
  checkSameThread : Bool
  timeoutSeconds : Double
deriving DecidableEq

/-- The milliseconds of a setting in seconds. -/
def secondsOf (milliseconds : Int) : Double :=
  .ofRatio (milliseconds < 0) milliseconds.natAbs 1000

/-- The options for connecting to a database, if it is a file. -/
def Settings.connectOptions (settings : Settings) (url : Text) : Option ConnectOptions :=
  if (Text.ofString "sqlite").codePoints.isPrefixOf url.codePoints then
    some { checkSameThread := false, timeoutSeconds := secondsOf settings.sqliteBusyTimeoutMs }
  else none

/-- The names of the tables that the store needs. -/
def neededTables : List Text := ["rule_drafts"]

/-- Whether a database with the given tables has those that the store needs. -/
def hasNeededTables (tables : List Text) : Bool := neededTables.all tables.contains

end Recurrence
