import CertCatalog.Proofs.Config.Load
import CertCatalog.Proofs.Config.Words
import CertCatalog.Proofs.Files

/-!
# Settings with a single value

Each of six settings is what its variables give, else what the settings file holds, else a default.
A variable that is set hides the value of the file, so that the value of the file does not count,
whether it is a good one or not.
-/

namespace CertCatalog

open CertCatalog.Bytes CertCatalog.Text

inductive Setting where
  | deployment
  | logLevel
  | logFormat
  | cacheTtl
  | cleanupInterval
  | requestTimeout
  deriving DecidableEq, Repr

namespace Setting

def names : Setting → List String
  | deployment => ["PKIVIEW_ENV", "APP_ENV"]
  | logLevel => ["PKIVIEW_LOG_LEVEL"]
  | logFormat => ["PKIVIEW_LOG_FORMAT"]
  | cacheTtl => ["PKIVIEW_CACHE_TTL_SECS"]
  | cleanupInterval => ["PKIVIEW_CACHE_CLEANUP_SECS"]
  | requestTimeout => ["PKIVIEW_REQUEST_TIMEOUT_SECS"]

/-- Whether a text in a variable spells a value: any text is a level, and times are positive. -/
def Accepts : Setting → String → Prop
  | deployment, text => ∃ d : Deployment, d.IsSpelled text
  | logLevel, _ => True
  | logFormat, text => ∃ f : LogFormat, f.IsSpelled text
  | cacheTtl, text | cleanupInterval, text | requestTimeout, text =>
      ∃ seconds, 0 < seconds ∧ IsSeconds text seconds

def IsGiven (setting : Setting) (env : Variables) : Prop :=
  ∃ text, env.Gives setting.names text

theorem isGiven_iff {setting : Setting} {env : Variables} :
    setting.IsGiven env ↔ (env.firstValue? setting.names).isSome = true := by
  simp only [IsGiven, Option.isSome_iff_exists, Variables.firstValue?_eq_some_iff]

/-- What is seen of a value in the file: nothing, if a variable gives the setting. -/
def seen {β : Type} (setting : Setting) (env : Variables) (entry : Option β) : Option β :=
  if (env.firstValue? setting.names).isSome then none else entry

theorem seen_of_isGiven {β : Type} {setting : Setting} {env : Variables}
    (hgiven : setting.IsGiven env) (entry : Option β) : setting.seen env entry = none :=
  if_pos (isGiven_iff.mp hgiven)

theorem or_seen (setting : Setting) (env : Variables) (entry : Option String) :
    (env.firstValue? setting.names).or (setting.seen env entry) =
      (env.firstValue? setting.names).or entry := by
  unfold seen
  cases env.firstValue? setting.names <;> rfl

end Setting

/-! ## The settings file -/

namespace SettingsFile

def without (file : SettingsFile) : Setting → SettingsFile
  | .deployment => { file with deployment := none }
  | .logLevel => { file with logLevel := none }
  | .logFormat => { file with logFormat := none }
  | .cacheTtl => { file with cacheTtl := none }
  | .cleanupInterval => { file with cleanupInterval := none }
  | .requestTimeout => { file with requestTimeout := none }

def ofContents? (contents : Bytes) : Option SettingsFile :=
  (Bytes.text? contents).bind fun text => (Json.parse? text).bind ofJson?

/-- Contents that are the same, or settings that are the same apart from the value of one. -/
def SameExcept (setting : Setting) (contents changed : Bytes) : Prop :=
  contents = changed ∨
    ∃ file other, ofContents? contents = some file ∧ ofContents? changed = some other ∧
      file.without setting = other.without setting

def IsBounded (file : SettingsFile) : Prop :=
  ∀ entry ∈ [file.cacheTtl, file.cleanupInterval, file.requestTimeout], ∀ seconds,
    entry = some seconds → seconds < bound64

theorem lt_of_nat? {bound : Nat} {json : Json} {n : Nat} (hn : Json.nat? bound json = some n) :
    n < bound := by
  unfold Json.nat? Json.naturalBelow? at hn
  split at hn
  · split at hn
    · split at hn
      · next hlt => cases hn; exact hlt
      · cases hn
    · cases hn
  · cases hn

theorem lt_of_optionalSeconds? {field : Option Json} {entry : Option Nat}
    (hentry : optionalSeconds? field = some entry) {seconds : Nat}
    (hseconds : entry = some seconds) : seconds < bound64 := by
  subst hseconds
  unfold optionalSeconds? Json.orElse? Json.nullable? at hentry
  split at hentry
  · cases hentry
  · split at hentry
    · cases hentry
    · obtain ⟨value, hvalue, heq⟩ := Option.map_eq_some_iff.mp hentry
      cases heq
      exact lt_of_nat? hvalue

theorem lt_of_cache? {json : Json} {times : Option Nat × Option Nat × Option Nat}
    (htimes : cache? json = some times) :
    ∀ entry ∈ [times.1, times.2.1, times.2.2], ∀ seconds, entry = some seconds →
      seconds < bound64 := by
  obtain ⟨fields, -, htimes⟩ := Option.bind_eq_some_iff.mp htimes
  split at htimes
  · obtain ⟨ttl, httl, htimes⟩ := Option.bind_eq_some_iff.mp htimes
    obtain ⟨cleanup, hcleanup, htimes⟩ := Option.bind_eq_some_iff.mp htimes
    obtain ⟨timeout, htimeout, htimes⟩ := Option.bind_eq_some_iff.mp htimes
    cases htimes
    intro entry hentry seconds hseconds
    simp only [List.mem_cons, List.not_mem_nil, or_false] at hentry
    rcases hentry with rfl | rfl | rfl
    · exact lt_of_optionalSeconds? httl hseconds
    · exact lt_of_optionalSeconds? hcleanup hseconds
    · exact lt_of_optionalSeconds? htimeout hseconds
  · cases htimes

theorem isBounded_of_ofJson? {json : Json} {file : SettingsFile}
    (hfile : ofJson? json = some file) :
    file.IsBounded := by
  obtain ⟨fields, -, hfile⟩ := Option.bind_eq_some_iff.mp hfile
  split at hfile
  · obtain ⟨sections, -, hfile⟩ := Option.bind_eq_some_iff.mp hfile
    obtain ⟨times, htimes, hfile⟩ := Option.bind_eq_some_iff.mp hfile
    obtain ⟨vaults, -, hfile⟩ := Option.bind_eq_some_iff.mp hfile
    cases hfile
    unfold Json.orElse? at htimes
    split at htimes
    · cases htimes
      simp [IsBounded]
    · exact lt_of_cache? htimes
  · cases hfile

theorem isBounded_of_read {files : Files} {path : String} {file : SettingsFile}
    (hfile : read files path = .ok file) : file.IsBounded := by
  unfold read at hfile
  split at hfile
  · cases hfile
  · split at hfile
    · next hsettings =>
        cases hfile
        obtain ⟨json, -, hjson⟩ := Option.bind_eq_some_iff.mp hsettings
        exact isBounded_of_ofJson? hjson
    · cases hfile

theorem isBounded_of_readSettings {env : Variables} {files : Files} {file : SettingsFile}
    (hfile : Configuration.readSettings env files = .ok file) : file.IsBounded := by
  unfold Configuration.readSettings at hfile
  split at hfile
  · exact isBounded_of_read hfile
  · split at hfile
    · exact isBounded_of_read hfile
    · cases hfile
      simp [IsBounded, empty]

theorem read_of_sameExcept {setting : Setting} {files other : Files}
    (h : files.Matches (SameExcept setting) other) (path : String) :
    (∃ e, read files path = .error e ∧ read other path = .error e) ∨
      ∃ file changed, read files path = .ok file ∧ read other path = .ok changed ∧
        file.without setting = changed.without setting := by
  unfold read Files.readText
  rcases h.read path with ⟨e, hfiles, hother⟩ | ⟨contents, changed, hfiles, hother, hsame⟩
  · rw [hfiles, hother]
    exact .inl ⟨_, rfl, rfl⟩
  · rw [hfiles, hother]
    rcases hsame with rfl | ⟨file, next, hfile, hnext, hsame⟩
    · dsimp only
      cases Bytes.text? contents with
      | none => exact .inl ⟨_, rfl, rfl⟩
      | some text =>
          dsimp only
          cases (Json.parse? text).bind ofJson? with
          | none => exact .inl ⟨_, rfl, rfl⟩
          | some file => exact .inr ⟨file, file, rfl, rfl, rfl⟩
    · obtain ⟨text, htext, hfile⟩ := Option.bind_eq_some_iff.mp hfile
      obtain ⟨nextText, hnextText, hnext⟩ := Option.bind_eq_some_iff.mp hnext
      dsimp only
      rw [htext, hnextText]
      dsimp only
      rw [hfile, hnext]
      exact .inr ⟨file, next, rfl, rfl, hsame⟩

/-! ## Values that variables hide -/

def seen (env : Variables) (file : SettingsFile) : SettingsFile :=
  { deployment := Setting.deployment.seen env file.deployment
    logLevel := Setting.logLevel.seen env file.logLevel
    logFormat := Setting.logFormat.seen env file.logFormat
    cacheTtl := Setting.cacheTtl.seen env file.cacheTtl
    cleanupInterval := Setting.cleanupInterval.seen env file.cleanupInterval
    requestTimeout := Setting.requestTimeout.seen env file.requestTimeout
    vaults := file.vaults }

theorem seen_without {setting : Setting} {env : Variables} (hgiven : setting.IsGiven env)
    (file : SettingsFile) : seen env (file.without setting) = seen env file := by
  cases setting <;> simp only [seen, without, Setting.seen_of_isGiven hgiven]

end SettingsFile

/-! ## Loading -/

namespace Configuration

theorem chooseDeployment_seen (env : Variables) (file : SettingsFile) :
    chooseDeployment env (file.seen env) = chooseDeployment env file := by
  have hseen : (deploymentName? env).or (file.seen env).deployment =
      (deploymentName? env).or file.deployment :=
    Setting.or_seen .deployment env file.deployment
  unfold chooseDeployment
  rw [hseen]

theorem chooseLogging_seen (env : Variables) (deployment : Deployment) (file : SettingsFile) :
    chooseLogging env deployment (file.seen env) = chooseLogging env deployment file := by
  have hlevel := Setting.or_seen .logLevel env file.logLevel
  have hformat := Setting.or_seen .logFormat env file.logFormat
  simp only [Setting.names, Variables.firstValue?_singleton] at hlevel hformat
  unfold chooseLogging SettingsFile.seen
  dsimp only
  rw [hlevel, hformat]

theorem chooseSeconds_seen (setting : Setting) {name : String} (hname : setting.names = [name])
    (env : Variables) (entry : Option Nat) (usual : Nat) :
    chooseSeconds env name (setting.seen env entry) usual =
      chooseSeconds env name entry usual := by
  unfold chooseSeconds Setting.seen
  rw [hname, Variables.firstValue?_singleton]
  cases env.value? name <;> rfl

/-- What is made of the settings file once it is read. -/
def configure (order : FaultOrder) (env : Variables) (file : SettingsFile) :
    Outcome Configuration := do
  let deployment ← chooseDeployment env file
  let logging ← chooseLogging env deployment file
  let cacheTtl ← chooseSeconds env "PKIVIEW_CACHE_TTL_SECS" file.cacheTtl defaultCacheTtl
  let cleanupInterval ←
    chooseSeconds env "PKIVIEW_CACHE_CLEANUP_SECS" file.cleanupInterval defaultCleanupInterval
  let requestTimeout ←
    chooseSeconds env "PKIVIEW_REQUEST_TIMEOUT_SECS" file.requestTimeout defaultRequestTimeout
  let vaults ← VaultEntry.normalizeAll order (chooseVaults env file)
  let config : Configuration :=
    { deployment := deployment
      logging := logging
      cacheTtl := cacheTtl
      cleanupInterval := cleanupInterval
      requestTimeout := requestTimeout
      vaults := vaults }
  config.validate
  pure config

theorem load_eq (order : FaultOrder) (env : Variables) (files : Files) :
    load order env files = readSettings env files >>= configure order env := rfl

variable {order : FaultOrder}

theorem configure_seen (env : Variables) (file : SettingsFile) :
    configure order env (file.seen env) = configure order env file := by
  have hvaults : chooseVaults env (file.seen env) = chooseVaults env file := rfl
  have hcacheTtl := chooseSeconds_seen .cacheTtl rfl env file.cacheTtl
    defaultCacheTtl
  have hcleanupInterval := chooseSeconds_seen .cleanupInterval rfl env
    file.cleanupInterval defaultCleanupInterval
  have hrequestTimeout := chooseSeconds_seen .requestTimeout rfl env
    file.requestTimeout defaultRequestTimeout
  unfold configure
  rw [chooseDeployment_seen, hvaults]
  simp only [chooseLogging_seen]
  simp only [SettingsFile.seen, hcacheTtl, hcleanupInterval, hrequestTimeout]

theorem configure_of_without {setting : Setting} {env : Variables} (hgiven : setting.IsGiven env)
    {file changed : SettingsFile} (hsame : file.without setting = changed.without setting) :
    configure order env file = configure order env changed := by
  rw [← configure_seen env file, ← configure_seen env changed,
    ← SettingsFile.seen_without hgiven file, ← SettingsFile.seen_without hgiven changed, hsame]

theorem load_of_sameExcept {setting : Setting} {env : Variables} (hgiven : setting.IsGiven env)
    {files other : Files} (h : files.Matches (SettingsFile.SameExcept setting) other) :
    load order env files = load order env other := by
  have hread : ∀ path,
      SettingsFile.read files path >>= configure order env =
        SettingsFile.read other path >>= configure order env := by
    intro path
    rcases SettingsFile.read_of_sameExcept h path with
      ⟨e, hfiles, hother⟩ | ⟨file, changed, hfiles, hother, hsame⟩
    · rw [hfiles, hother]
    · rw [hfiles, hother]
      exact configure_of_without hgiven hsame
  have hfiles : files.isFile = other.isFile := funext h.isFile_eq
  rw [load_eq, load_eq]
  unfold readSettings
  rw [hfiles]
  split
  · exact hread _
  · split
    · exact hread _
    · rfl

/-! ## Where values come from -/

variable {env : Variables} {file : SettingsFile}

theorem settles_deployment {deployment : Deployment}
    (h : chooseDeployment env file = .ok deployment) :
    env.Settles ["PKIVIEW_ENV", "APP_ENV"] (fun text d => d.IsSpelled text) file.deployment
      (fun text d => d.IsSpelled text) Deployment.development deployment := by
  unfold chooseDeployment deploymentName? at h
  refine Variables.settles_of_or (fun text htext => ?_) fun hnone => ?_
  · rw [htext] at h
    exact Deployment.ofText_eq_ok_iff.mp h
  · rw [hnone] at h
    exact (Except.ok.inj h).symm

theorem chooseLogging_eq_ok {deployment : Deployment} {logging : LogSettings}
    (h : chooseLogging env deployment file = .ok logging) :
    logging.level = ((env.value? "PKIVIEW_LOG_LEVEL").or file.logLevel).getD
        (LogSettings.ofDeployment deployment).level ∧
      match (env.value? "PKIVIEW_LOG_FORMAT").or file.logFormat with
      | some text => LogFormat.ofText text = .ok logging.format
      | none => logging.format = (LogSettings.ofDeployment deployment).format := by
  unfold chooseLogging at h
  cases hsource : (env.value? "PKIVIEW_LOG_FORMAT").or file.logFormat with
  | some text =>
      simp only [hsource] at h
      obtain ⟨format, hformat, h⟩ := exists_of_bind_eq_ok h
      cases h
      exact ⟨rfl, hformat⟩
  | none =>
      simp only [hsource] at h
      cases h
      exact ⟨rfl, rfl⟩

theorem settles_logLevel {deployment : Deployment} {logging : LogSettings}
    (h : chooseLogging env deployment file = .ok logging) :
    env.Settles ["PKIVIEW_LOG_LEVEL"] Eq file.logLevel Eq
      (LogSettings.ofDeployment deployment).level logging.level := by
  have hlevel := (chooseLogging_eq_ok h).1
  rw [← Variables.firstValue?_singleton] at hlevel
  refine Variables.settles_of_or (fun text htext => ?_) fun hnone => ?_
  · rw [htext] at hlevel
    exact hlevel.symm
  · rw [hnone] at hlevel
    exact hlevel

theorem settles_logFormat {deployment : Deployment} {logging : LogSettings}
    (h : chooseLogging env deployment file = .ok logging) :
    env.Settles ["PKIVIEW_LOG_FORMAT"] (fun text f => f.IsSpelled text) file.logFormat
      (fun text f => f.IsSpelled text) (LogSettings.ofDeployment deployment).format
      logging.format := by
  have hformat := (chooseLogging_eq_ok h).2
  rw [← Variables.firstValue?_singleton] at hformat
  refine Variables.settles_of_or (fun text htext => ?_) fun hnone => ?_
  · rw [htext] at hformat
    exact LogFormat.ofText_eq_ok_iff.mp hformat
  · rw [hnone] at hformat
    exact hformat

theorem settles_seconds {name : String} {entry : Option Nat} {usual seconds : Nat}
    (h : chooseSeconds env name entry usual = .ok seconds) :
    env.Settles [name] IsSeconds entry Eq usual seconds := by
  unfold chooseSeconds at h
  rw [← Variables.firstValue?_singleton] at h
  refine Variables.settles_of (fun text hgiven => ?_) (fun found hgiven hentry => ?_)
    fun hgiven hentry => ?_
  · rw [hgiven] at h
    dsimp only at h
    split at h
    · next hread =>
        cases h
        exact readBounded_eq_ok_iff_isSeconds.mp hread
    · cases h
  · rw [hgiven, hentry] at h
    exact Except.ok.inj h
  · rw [hgiven, hentry] at h
    exact (Except.ok.inj h).symm

theorem lt_of_settles {name : String} {entry : Option Nat} {usual seconds : Nat}
    (h : env.Settles [name] IsSeconds entry Eq usual seconds)
    (hentry : ∀ found, entry = some found → found < bound64) (husual : usual < bound64) :
    seconds < bound64 := by
  cases h with
  | byVariable _ hvalue =>
      obtain ⟨-, -, -, hlt⟩ := hvalue
      exact hlt
  | byFile _ hfound hvalue => exact hvalue ▸ hentry _ hfound
  | byDefault _ _ => exact husual

/--
Every setting has the value that its sources settle: the defaults of the log are those of the
resulting deployment.  The level is no empty text, and the times are positive numbers of 64 bits.
-/
structure IsSettledBy (env : Variables) (file : SettingsFile) (c : Configuration) : Prop where
  deployment : env.Settles ["PKIVIEW_ENV", "APP_ENV"] (fun text d => d.IsSpelled text)
    file.deployment (fun text d => d.IsSpelled text) Deployment.development c.deployment
  logLevel : env.Settles ["PKIVIEW_LOG_LEVEL"] Eq file.logLevel Eq
    (LogSettings.ofDeployment c.deployment).level c.logging.level
  logFormat : env.Settles ["PKIVIEW_LOG_FORMAT"] (fun text f => f.IsSpelled text) file.logFormat
    (fun text f => f.IsSpelled text) (LogSettings.ofDeployment c.deployment).format
    c.logging.format
  cacheTtl : env.Settles ["PKIVIEW_CACHE_TTL_SECS"] IsSeconds file.cacheTtl Eq 300 c.cacheTtl
  cleanupInterval : env.Settles ["PKIVIEW_CACHE_CLEANUP_SECS"] IsSeconds file.cleanupInterval Eq
    60 c.cleanupInterval
  requestTimeout : env.Settles ["PKIVIEW_REQUEST_TIMEOUT_SECS"] IsSeconds file.requestTimeout Eq
    10 c.requestTimeout
  level_ne_empty : c.logging.level ≠ ""
  times : ∀ seconds ∈ [c.cacheTtl, c.cleanupInterval, c.requestTimeout],
    0 < seconds ∧ seconds < bound64

theorem validate_eq_ok {c : Configuration} (h : c.validate = .ok ()) :
    c.logging.level ≠ "" ∧ 0 < c.cacheTtl ∧ 0 < c.cleanupInterval ∧ 0 < c.requestTimeout := by
  unfold validate at h
  split at h
  · cases h
  · next hlevel =>
      split at h
      · cases h
      · next hcacheTtl =>
          split at h
          · cases h
          · next hcleanupInterval =>
              split at h
              · cases h
              · next hrequestTimeout =>
                  simp only [beq_iff_eq, String.isEmpty_iff] at *
                  exact ⟨hlevel, by omega, by omega, by omega⟩

theorem isSettledBy_of_isLoadedFrom {c : Configuration} (h : IsLoadedFrom order env file c)
    (hfile : file.IsBounded) : IsSettledBy env file c := by
  obtain ⟨hlevel, hcacheTtl, hcleanupInterval, hrequestTimeout⟩ := validate_eq_ok h.valid
  have hbounded : ∀ entry ∈ [file.cacheTtl, file.cleanupInterval, file.requestTimeout],
      ∀ found, entry = some found → found < bound64 := hfile
  simp only [List.mem_cons, List.not_mem_nil, or_false, forall_eq_or_imp, forall_eq] at hbounded
  have httl := settles_seconds h.cacheTtl
  have hcleanup := settles_seconds h.cleanupInterval
  have htimeout := settles_seconds h.requestTimeout
  refine
    { deployment := settles_deployment h.deployment
      logLevel := settles_logLevel h.logging
      logFormat := settles_logFormat h.logging
      cacheTtl := httl
      cleanupInterval := hcleanup
      requestTimeout := htimeout
      level_ne_empty := hlevel
      times := ?_ }
  simp only [List.mem_cons, List.not_mem_nil, or_false, forall_eq_or_imp, forall_eq]
  exact ⟨⟨hcacheTtl, lt_of_settles httl hbounded.1 (by decide)⟩,
    ⟨hcleanupInterval, lt_of_settles hcleanup hbounded.2.1 (by decide)⟩,
    hrequestTimeout, lt_of_settles htimeout hbounded.2.2 (by decide)⟩

theorem isSettledBy_of_load {files : Files} {config : Configuration}
    (hload : load order env files = .ok config) :
    ∃ file, readSettings env files = .ok file ∧ IsSettledBy env file config := by
  obtain ⟨file, hfile, hsteps⟩ := isLoadedFrom_of_load hload
  exact ⟨file, hfile,
    isSettledBy_of_isLoadedFrom hsteps (SettingsFile.isBounded_of_readSettings hfile)⟩

theorem IsSettledBy.accepts {config : Configuration} (h : IsSettledBy env file config)
    {setting : Setting} {text : String} (hgives : env.Gives setting.names text) :
    setting.Accepts text := by
  have htimes := h.times
  simp only [List.mem_cons, List.not_mem_nil, or_false, forall_eq_or_imp, forall_eq] at htimes
  cases setting with
  | deployment => exact ⟨_, h.deployment.spells_of_gives hgives⟩
  | logLevel => trivial
  | logFormat => exact ⟨_, h.logFormat.spells_of_gives hgives⟩
  | cacheTtl => exact ⟨_, htimes.1.1, h.cacheTtl.spells_of_gives hgives⟩
  | cleanupInterval => exact ⟨_, htimes.2.1.1, h.cleanupInterval.spells_of_gives hgives⟩
  | requestTimeout => exact ⟨_, htimes.2.2.1, h.requestTimeout.spells_of_gives hgives⟩

/--
A configuration that loads has the settings of its sources.  A variable that counts and spells no
value is a fault of the configuration, whatever the file holds; and what the file holds for a
setting that a variable gives makes no difference to the outcome, good or bad.
-/
theorem load_settles_settings (order : FaultOrder) (env : Variables) (files : Files) :
    (∀ config, load order env files = .ok config →
        ∃ file, readSettings env files = .ok file ∧ IsSettledBy env file config) ∧
      (∀ setting : Setting, ∀ text, env.Gives setting.names text → ¬setting.Accepts text →
        ∃ message, load order env files = .error (.config message)) ∧
      ∀ setting : Setting, ∀ other, setting.IsGiven env →
        files.Matches (SettingsFile.SameExcept setting) other →
        load order env files = load order env other := by
  refine ⟨fun config hload => isSettledBy_of_load hload, fun setting text hgives hrefused => ?_,
    fun setting other hgiven hother => load_of_sameExcept hgiven hother⟩
  cases hload : load order env files with
  | error e =>
      obtain ⟨message, rfl⟩ := blamesConfig_load order env files e hload
      exact ⟨message, rfl⟩
  | ok config =>
      obtain ⟨file, -, hsettled⟩ := isSettledBy_of_load hload
      exact absurd (hsettled.accepts hgives) hrefused

def scalarText (ttl : String) : String :=
  "\x7b\"app\":\x7b\"env\":\"staging\",\"logging\":\x7b\"level\":\"warn\"\x7d\x7d," ++
    "\"cache\":\x7b\"ttl_secs\":" ++ ttl ++ ",\"cleanup_interval_secs\":7\x7d\x7d"

def scalarFiles (ttl : String) : Files :=
  .ofList [("settings.json", .file (Bytes.utf8 (scalarText ttl)))]

def scalarFile (ttl : Nat) : SettingsFile :=
  { SettingsFile.empty with
    deployment := some "staging"
    logLevel := some "warn"
    cacheTtl := some ttl
    cleanupInterval := some 7 }

def scalarVariables (ttl : String) : Variables :=
  .ofList [("PKIVIEW_ENV", " "), ("APP_ENV", " Production "), ("PKIVIEW_CACHE_TTL_SECS", ttl)]

/-- The faults of the file are hidden by variables, and those of the variables are not. -/
theorem load_settles_settings_of_sample :
    (∃ config, load .addressFirst (scalarVariables " +30 ") (scalarFiles "0") = .ok config ∧
        config.deployment = .production ∧ config.logging = { level := "warn", format := .json } ∧
        [config.cacheTtl, config.cleanupInterval, config.requestTimeout] = [30, 7, 10] ∧
        IsSettledBy (scalarVariables " +30 ") (scalarFile 0) config) ∧
      (∃ message,
        load .addressFirst (scalarVariables "0") (scalarFiles "5") = .error (.config message)) ∧
      load .addressFirst (scalarVariables "30") (scalarFiles "0") =
        load .addressFirst (scalarVariables "30") (scalarFiles "5") := by
  have hgives : ∀ ttl trimmed, isAllBlank ttl = false → trimmed = trim ttl →
      (scalarVariables ttl).Gives Setting.cacheTtl.names trimmed := by
    intro ttl trimmed hfilled htrimmed
    exact ⟨[], _, [], ttl, rfl, by simp, rfl, hfilled, htrimmed⟩
  refine ⟨?_, ?_, ?_⟩
  · have hvalues : (load .addressFirst (scalarVariables " +30 ") (scalarFiles "0")).toOption.map
        (fun c => (c.deployment, c.logging, [c.cacheTtl, c.cleanupInterval, c.requestTimeout])) =
        some (.production, { level := "warn", format := .json }, [30, 7, 10]) := by
      decide +kernel
    have hread : readSettings (scalarVariables " +30 ") (scalarFiles "0") = .ok (scalarFile 0) := by
      decide +kernel
    cases hload : load .addressFirst (scalarVariables " +30 ") (scalarFiles "0") with
    | error e => simp [hload, Except.toOption] at hvalues
    | ok config =>
        obtain ⟨file, hfile, hsettled⟩ := (load_settles_settings .addressFirst _ _).1 config hload
        obtain rfl : scalarFile 0 = file := Except.ok.inj (hread.symm.trans hfile)
        simp only [hload, Except.toOption, Option.map_some, Option.some.injEq,
          Prod.mk.injEq] at hvalues
        exact ⟨config, rfl, hvalues.1, hvalues.2.1, hvalues.2.2, hsettled⟩
  · refine (load_settles_settings .addressFirst _ _).2.1 .cacheTtl "0"
      (hgives "0" "0" (by decide) (by decide)) ?_
    rintro ⟨seconds, hpositive, hseconds⟩
    have hread := readBounded_eq_ok_iff_isSeconds.mpr hseconds
    rw [show readBounded bound64 "0".toList = .ok 0 by decide] at hread
    cases hread
    cases hpositive
  · refine (load_settles_settings .addressFirst _ _).2.2 .cacheTtl (scalarFiles "5")
      ⟨"30", hgives "30" "30" (by decide) (by decide)⟩ ?_
    refine .cons ⟨rfl, .file (.inr ⟨scalarFile 0, scalarFile 5, ?_, ?_, rfl⟩)⟩ .nil
    · decide +kernel
    · decide +kernel

end Configuration
end CertCatalog
