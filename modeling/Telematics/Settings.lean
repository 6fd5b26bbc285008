import Telematics.Json.Basic
import Telematics.Text.Blank
import Telematics.Text.Split

/-!
Settings, as the environment gives them. Every setting has a default.

* `Settings.ofEnvironment`: the settings of an environment.
* `switch_none`: a switch that is not set has its default.
-/

namespace Telematics

/-- Environment variables. -/
abbrev Environment := List (String × String)

/-- The words that turn a switch on. -/
def onWords : List String := ["1", "true", "yes", "on"]

/-- A switch: on exactly for the words that turn it on, in any case and with blanks around them. -/
def switch (default : Bool) : Option String → Bool
  | some text => onWords.contains (Text.lowerAscii (String.ofList (Text.trim text.toList)))
  | none => default

/-- The settings of the ingest of reports. -/
structure IngestSettings where
  protocol : Json := .text "osmand"
  /-- The symbol of the unit of the speeds of query reports. -/
  speedUnit : String := "kn"
  /-- Unknown devices are registered when they report. -/
  registerUnknown : Bool := false
  /-- Stored positions are sent to the listeners. -/
  broadcast : Bool := true
deriving DecidableEq, Repr

/-- The database: a file, or a server with an account. -/
inductive Database where
  | file (engine name : String)
  | server (engine name user password host port : String)
deriving DecidableEq, Repr

/-- All settings. -/
structure Settings where
  secretKey : String
  debug : Bool
  allowedHosts : List String
  database : Database
  timeZone : String
  ingest : IngestSettings
  logLevel : String
deriving DecidableEq, Repr

/-- The names in a list separated by commas, without blanks around them and without empty names. -/
def commaList (text : String) : List String :=
  (Text.splitOn ',' text.toList).filterMap fun part =>
    let name := Text.trim part
    if name = [] then none else some (String.ofList name)

/-- The engines whose database is a file are those whose name ends in this word. -/
def fileEngineEnd : String := "sqlite3"

/-- The database of an environment. A database file is in the base directory unless named. -/
def Database.ofEnvironment (base : String) (environment : Environment) : Database :=
  let get (name default : String) : String := (environment.lookup name).getD default
  let engine := get "DB_ENGINE" "django.db.backends.sqlite3"
  if fileEngineEnd.toList.isSuffixOf engine.toList then
    .file engine (get "DB_NAME" (base ++ "/db.sqlite3"))
  else
    .server engine (get "DB_NAME" "fleet_gateway") (get "DB_USER" "") (get "DB_PASSWORD" "")
      (get "DB_HOST" "localhost") (get "DB_PORT" "")

/-- The settings of an environment, for a base directory. -/
def Settings.ofEnvironment (base : String) (environment : Environment) : Settings :=
  let get (name default : String) : String := (environment.lookup name).getD default
  { secretKey := get "DJANGO_SECRET_KEY" "django-insecure-fleet-gateway-dev-key"
    debug := switch false (environment.lookup "DJANGO_DEBUG")
    allowedHosts := commaList (get "DJANGO_ALLOWED_HOSTS" "*")
    database := Database.ofEnvironment base environment
    timeZone := get "DJANGO_TIME_ZONE" "UTC"
    ingest := {
      protocol := .text (get "OSMAND_PROTOCOL_NAME" "osmand")
      speedUnit := get "OSMAND_SPEED_UNIT" "kn"
      registerUnknown := switch false (environment.lookup "GPS_REGISTER_UNKNOWN_DEVICES")
      broadcast := switch true (environment.lookup "GPS_BROADCAST_POSITIONS") }
    logLevel := get "GPS_LOG_LEVEL" "INFO" }

theorem switch_none (default : Bool) : switch default none = default := rfl

end Telematics
