import CertCatalog.Config.Settings
import CertCatalog.Config.Sources

/-!
# Loading the configuration

Variables come before the settings file, and the settings file before the defaults.
-/

namespace CertCatalog

open CertCatalog.Text

structure Configuration where
  deployment : Deployment
  logging : LogSettings
  /-- Times in seconds. -/
  cacheTtl : Nat
  cleanupInterval : Nat
  requestTimeout : Nat
  /-- The enabled vaults in normal form. -/
  vaults : List VaultEntry
  deriving DecidableEq, Repr

namespace Configuration

def vaultIds (c : Configuration) : List String :=
  c.vaults.map (·.id)

/-! ## Defaults -/

def defaultCacheTtl : Nat := 300

def defaultCleanupInterval : Nat := 60

def defaultRequestTimeout : Nat := 10

/-! ## Checks -/

def validate (c : Configuration) : Outcome Unit :=
  if c.logging.level.isEmpty then
    .error (.config "Validation failed: level: Log level cannot be empty")
  else if c.cacheTtl == 0 then .error (.config "cache TTL must be positive")
  else if c.cleanupInterval == 0 then .error (.config "cache cleanup interval must be positive")
  else if c.requestTimeout == 0 then .error (.config "request timeout must be positive")
  else .ok ()

/-! ## Choosing the settings file -/

def deploymentName? (env : Variables) : Option String :=
  env.firstValue? ["PKIVIEW_ENV", "APP_ENV"]

def settingsPaths (deployment : Option String) : List String :=
  let name := lowerAscii (deployment.getD Deployment.development.name)
  ["settings." ++ name ++ ".json", "settings.json", "/etc/pkiview/settings.json"]

def readSettings (env : Variables) (files : Files) : Outcome SettingsFile :=
  match env.value? "PKIVIEW_SETTINGS_PATH" with
  | some path => SettingsFile.read files path
  | none =>
      match (settingsPaths (deploymentName? env)).find? files.isFile with
      | some path => SettingsFile.read files path
      | none => .ok SettingsFile.empty

/-! ## Choosing values -/

def chooseDeployment (env : Variables) (file : SettingsFile) : Outcome Deployment :=
  match (deploymentName? env).or file.deployment with
  | some name => Deployment.ofText name
  | none => .ok .development

def chooseLogging (env : Variables) (deployment : Deployment) (file : SettingsFile) :
    Outcome LogSettings := do
  let usual := LogSettings.ofDeployment deployment
  let level := ((env.value? "PKIVIEW_LOG_LEVEL").or file.logLevel).getD usual.level
  match (env.value? "PKIVIEW_LOG_FORMAT").or file.logFormat with
  | some text => pure { level := level, format := ← LogFormat.ofText text }
  | none => pure { level := level, format := usual.format }

def chooseSeconds (env : Variables) (name : String) (inFile : Option Nat) (usual : Nat) :
    Outcome Nat :=
  match env.value? name with
  | some text =>
      match readBounded bound64 text.toList with
      | .ok seconds => .ok seconds
      | .error e => .error (.config ("invalid " ++ name ++ ": " ++ e.message))
  | none => .ok (inFile.getD usual)

/-- The vaults of the file and of the address list, or the single vault if there are none. -/
def chooseVaults (env : Variables) (file : SettingsFile) : List VaultEntry :=
  match VaultEntry.merge file.vaults (AddressList.ofVariables env) with
  | [] => (VaultEntry.single? env).toList
  | entries => entries

/-! ## Loading -/

def load (order : FaultOrder) (env : Variables) (files : Files) : Outcome Configuration := do
  let file ← readSettings env files
  let deployment ← chooseDeployment env file
  let logging ← chooseLogging env deployment file
  let cacheTtl ← chooseSeconds env "PKIVIEW_CACHE_TTL_SECS" file.cacheTtl defaultCacheTtl
  let cleanupInterval ←
    chooseSeconds env "PKIVIEW_CACHE_CLEANUP_SECS" file.cleanupInterval defaultCleanupInterval
  let requestTimeout ←
    chooseSeconds env "PKIVIEW_REQUEST_TIMEOUT_SECS" file.requestTimeout defaultRequestTimeout
  let vaults ← VaultEntry.normalizeAll order (chooseVaults env file)
  let config : Configuration :=
    { deployment := deployment
      logging := logging
      cacheTtl := cacheTtl
      cleanupInterval := cleanupInterval
      requestTimeout := requestTimeout
      vaults := vaults }
  config.validate
  pure config

end Configuration
end CertCatalog
