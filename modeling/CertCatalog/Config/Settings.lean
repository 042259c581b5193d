import CertCatalog.Config.LogFilter
import CertCatalog.Config.VaultEntry
import CertCatalog.Files
import CertCatalog.Json.Reader
import CertCatalog.Text.Blank

/-!
# Settings

The settings file, and the settings that are one of a few words.
-/

namespace CertCatalog

open CertCatalog.Text

inductive Deployment where
  | development
  | production
  deriving DecidableEq, Repr

namespace Deployment

def name : Deployment → String
  | .development => "dev"
  | .production => "prod"

def ofText (text : String) : Outcome Deployment :=
  let word := lowerAscii (trim text)
  if ["", "dev", "development"].contains word then .ok .development
  else if ["prod", "production"].contains word then .ok .production
  else .error (.config ("unknown environment: " ++ word))

end Deployment

inductive LogFormat where
  | pretty
  | json
  deriving DecidableEq, Repr

namespace LogFormat

def name : LogFormat → String
  | .pretty => "pretty"
  | .json => "json"

def ofText (text : String) : Outcome LogFormat :=
  let word := lowerAscii (trim text)
  if ["pretty", "text"].contains word then .ok .pretty
  else if word == "json" then .ok .json
  else .error (.config ("unknown log format: " ++ word))

end LogFormat

structure LogSettings where
  level : String
  format : LogFormat
  deriving DecidableEq, Repr

namespace LogSettings

def ofDeployment : Deployment → LogSettings
  | .development => { level := "debug", format := .pretty }
  | .production => { level := "info", format := .json }

/-- The level must be a filter, unless a filter overrides it. -/
def check (settings : LogSettings) (override : Option String) : Outcome Unit :=
  if override.any fun text => (LogFilter.check text).isOk then .ok ()
  else
    match LogFilter.check settings.level with
    | .ok () => .ok ()
    | .error e => .error (.config ("invalid log level '" ++ settings.level ++ "': " ++ e.message))

end LogSettings

/-! ## The settings file -/

structure SettingsFile where
  deployment : Option String
  logLevel : Option String
  logFormat : Option String
  /-- Times in seconds. -/
  cacheTtl : Option Nat
  cleanupInterval : Option Nat
  requestTimeout : Option Nat
  vaults : List VaultEntry
  deriving DecidableEq, Repr

namespace SettingsFile

def empty : SettingsFile :=
  { deployment := none, logLevel := none, logFormat := none, cacheTtl := none
    cleanupInterval := none, requestTimeout := none, vaults := [] }

def optionalText? : Option Json → Option (Option String) :=
  Json.orElse? none (Json.nullable? Json.text?)

def optionalSeconds? : Option Json → Option (Option Nat) :=
  Json.orElse? none (Json.nullable? (Json.nat? bound64))

def logging? (json : Json) : Option (Option String × Option String) := do
  match ← json.record? ["level", "format"] with
  | [level, format] => pure (← optionalText? level, ← optionalText? format)
  | _ => none

def app? (json : Json) : Option (Option String × Option String × Option String) := do
  match ← json.record? ["env", "logging"] with
  | [env, logging] =>
      let deployment ← optionalText? env
      let sections ← Json.orElse? none (Json.nullable? logging?) logging
      pure (deployment, sections.getD (none, none))
  | _ => none

def cache? (json : Json) : Option (Option Nat × Option Nat × Option Nat) := do
  match ← json.record? ["ttl_secs", "cleanup_interval_secs", "request_timeout_secs"] with
  | [ttl, cleanup, timeout] =>
      pure (← optionalSeconds? ttl, ← optionalSeconds? cleanup, ← optionalSeconds? timeout)
  | _ => none

def ofJson? (json : Json) : Option SettingsFile := do
  match ← json.record? ["app", "cache", "vaults"] with
  | [app, cache, vaults] =>
      let (deployment, logLevel, logFormat) ← Json.orElse? (none, none, none) app? app
      let (cacheTtl, cleanupInterval, requestTimeout) ←
        Json.orElse? (none, none, none) cache? cache
      pure
        { deployment := deployment
          logLevel := logLevel
          logFormat := logFormat
          cacheTtl := cacheTtl
          cleanupInterval := cleanupInterval
          requestTimeout := requestTimeout
          vaults := ← Json.orElse? [] (Json.list? VaultEntry.ofJson?) vaults }
  | _ => none

def read (files : Files) (path : String) : Outcome SettingsFile :=
  match files.readText path with
  | .error e => .error (.config ("cannot read settings file " ++ path ++ ": " ++ e.message))
  | .ok text =>
      match (Json.parse? text).bind ofJson? with
      | some settings => .ok settings
      | none => .error (.config ("invalid settings file " ++ path ++ ": unexpected content"))

end SettingsFile
end CertCatalog
