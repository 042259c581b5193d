import CertCatalog.Proofs.Action
import CertCatalog.Proofs.Config.Sources

/-!
# Loaded configurations

Loading normalizes the active entries of all sources, and it fails for faults of the configuration
only.
-/

namespace CertCatalog

open CertCatalog.Text

/-! ## Faults -/

def BlamesConfig {α : Type} (outcome : Outcome α) : Prop :=
  ∀ e, outcome = .error e → ∃ message, e = .config message

namespace BlamesConfig

variable {α β : Type}

theorem ok (value : α) : BlamesConfig (.ok value : Outcome α) := nofun

theorem error (message : String) : BlamesConfig (.error (.config message) : Outcome α) := by
  intro e he
  cases he
  exact ⟨message, rfl⟩

theorem bind {first : Outcome α} {second : α → Outcome β} (hfirst : BlamesConfig first)
    (hsecond : ∀ value, BlamesConfig (second value)) : BlamesConfig (first >>= second) := by
  cases first with
  | error e =>
      obtain ⟨message, rfl⟩ := hfirst e rfl
      exact error message
  | ok value => exact hsecond value

theorem read (files : Files) (path : String) : BlamesConfig (SettingsFile.read files path) := by
  unfold SettingsFile.read
  split
  · exact error _
  · split
    · exact ok _
    · exact error _

theorem normalizeFrom (order : FaultOrder) (place : Nat) (seen : List String)
    (entries : List VaultEntry) :
    BlamesConfig (VaultEntry.normalizeFrom order place seen entries) := by
  induction entries generalizing place seen with
  | nil => exact ok _
  | cons e rest ih =>
      unfold VaultEntry.normalizeFrom
      split
      · exact ih _ _
      · refine bind ?_ fun normal => ?_
        · unfold VaultEntry.normalizeAt
          split
          · exact ok _
          · exact error _
        · split
          · exact error _
          · exact bind (ih _ _) fun others => ok _

end BlamesConfig

namespace Configuration

theorem blamesConfig_readSettings (env : Variables) (files : Files) :
    BlamesConfig (readSettings env files) := by
  unfold readSettings
  split
  · exact .read files _
  · split
    · exact .read files _
    · exact .ok _

theorem blamesConfig_chooseDeployment (env : Variables) (file : SettingsFile) :
    BlamesConfig (chooseDeployment env file) := by
  unfold chooseDeployment
  split
  · next name _ =>
      unfold Deployment.ofText
      generalize lowerAscii (trim name) = word
      dsimp only
      split
      · exact .ok _
      · split
        · exact .ok _
        · exact .error _
  · exact .ok _

theorem blamesConfig_chooseLogging (env : Variables) (deployment : Deployment)
    (file : SettingsFile) : BlamesConfig (chooseLogging env deployment file) := by
  unfold chooseLogging
  dsimp only
  split
  · next text _ =>
      refine .bind ?_ fun format => .ok _
      unfold LogFormat.ofText
      generalize lowerAscii (trim text) = word
      dsimp only
      split
      · exact .ok _
      · split
        · exact .ok _
        · exact .error _
  · exact .ok _

theorem blamesConfig_chooseSeconds (env : Variables) (name : String) (inFile : Option Nat)
    (usual : Nat) : BlamesConfig (chooseSeconds env name inFile usual) := by
  unfold chooseSeconds
  split
  · split
    · exact .ok _
    · exact .error _
  · exact .ok _

theorem blamesConfig_validate (c : Configuration) : BlamesConfig c.validate := by
  unfold validate
  repeat' split
  all_goals first | exact .ok _ | exact .error _

theorem blamesConfig_load (order : FaultOrder) (env : Variables) (files : Files) :
    BlamesConfig (load order env files) :=
  (blamesConfig_readSettings env files).bind fun file =>
    (blamesConfig_chooseDeployment env file).bind fun deployment =>
      (blamesConfig_chooseLogging env deployment file).bind fun _ =>
        (blamesConfig_chooseSeconds env _ _ _).bind fun _ =>
          (blamesConfig_chooseSeconds env _ _ _).bind fun _ =>
            (blamesConfig_chooseSeconds env _ _ _).bind fun _ =>
              (BlamesConfig.normalizeFrom _ _ _ _).bind fun _ =>
                (blamesConfig_validate _).bind fun _ => .ok _

/-- The steps of loading, all of which have succeeded. -/
structure IsLoadedFrom (order : FaultOrder) (env : Variables) (file : SettingsFile)
    (config : Configuration) : Prop where
  deployment : chooseDeployment env file = .ok config.deployment
  logging : chooseLogging env config.deployment file = .ok config.logging
  cacheTtl : chooseSeconds env "PKIVIEW_CACHE_TTL_SECS" file.cacheTtl defaultCacheTtl =
    .ok config.cacheTtl
  cleanupInterval :
    chooseSeconds env "PKIVIEW_CACHE_CLEANUP_SECS" file.cleanupInterval defaultCleanupInterval =
      .ok config.cleanupInterval
  requestTimeout :
    chooseSeconds env "PKIVIEW_REQUEST_TIMEOUT_SECS" file.requestTimeout defaultRequestTimeout =
      .ok config.requestTimeout
  vaults : VaultEntry.normalizeAll order (chooseVaults env file) = .ok config.vaults
  valid : config.validate = .ok ()

variable {order : FaultOrder}

/-- The inversion lemma: where the parts of a configuration come from. -/
theorem isLoadedFrom_of_load {env : Variables} {files : Files} {config : Configuration}
    (hload : load order env files = .ok config) :
    ∃ file, readSettings env files = .ok file ∧ IsLoadedFrom order env file config := by
  obtain ⟨file, hfile, hload⟩ := exists_of_bind_eq_ok hload
  obtain ⟨deployment, hdeployment, hload⟩ := exists_of_bind_eq_ok hload
  obtain ⟨logging, hlogging, hload⟩ := exists_of_bind_eq_ok hload
  obtain ⟨cacheTtl, hcacheTtl, hload⟩ := exists_of_bind_eq_ok hload
  obtain ⟨cleanupInterval, hcleanupInterval, hload⟩ := exists_of_bind_eq_ok hload
  obtain ⟨requestTimeout, hrequestTimeout, hload⟩ := exists_of_bind_eq_ok hload
  obtain ⟨vaults, hvaults, hload⟩ := exists_of_bind_eq_ok hload
  obtain ⟨⟨⟩, hvalid, hload⟩ := exists_of_bind_eq_ok hload
  cases hload
  exact ⟨file, hfile, hdeployment, hlogging, hcacheTtl, hcleanupInterval, hrequestTimeout, hvaults,
    hvalid⟩

theorem normals_of_load {env : Variables} {files : Files} {config : Configuration}
    (hload : load order env files = .ok config) :
    ∃ file, readSettings env files = .ok file ∧
      List.Forall₂ (fun e normal => e.normalize = .ok normal) (activeEntries env file)
        config.vaults ∧
      config.vaultIds = (activeEntries env file).map VaultEntry.normalId ∧
      config.vaultIds.Nodup := by
  obtain ⟨file, hfile, hsteps⟩ := isLoadedFrom_of_load hload
  have hactive := filter_isEnabled_chooseVaults env file
  have hnormals := VaultEntry.normalize_of_normalizeFrom hsteps.vaults
  obtain ⟨hcompleted, hnodup, -⟩ := VaultEntry.normalizeFrom_eq_ok hsteps.vaults
  rw [hactive] at hnormals hcompleted
  refine ⟨file, hfile, hnormals, ?_, hnodup⟩
  rw [vaultIds, hcompleted, List.map_map]
  exact List.map_congr_left fun e _ => VaultEntry.id_completed e

theorem load_of_repeated_id {env : Variables} {files : Files} {file : SettingsFile}
    (hfile : readSettings env files = .ok file) {e other normal same : VaultEntry}
    (hplaces : [e, other].Sublist (activeEntries env file)) (hnormal : e.normalize = .ok normal)
    (hsame : other.normalize = .ok same) (hid : normal.id = same.id) :
    ∃ message, load order env files = .error (.config message) := by
  cases hload : load order env files with
  | error fault =>
      obtain ⟨message, rfl⟩ := blamesConfig_load order env files fault hload
      exact ⟨message, rfl⟩
  | ok config =>
      obtain ⟨found, hfound, -, hids, hnodup⟩ := normals_of_load hload
      obtain rfl : file = found := Except.ok.inj (hfile.symm.trans hfound)
      rw [hids] at hnodup
      have hpair := hnodup.sublist (hplaces.map VaultEntry.normalId)
      obtain ⟨rfl, -⟩ := VaultEntry.normalize_eq_ok hnormal
      obtain ⟨rfl, -⟩ := VaultEntry.normalize_eq_ok hsame
      simp only [VaultEntry.id_completed] at hid
      simp [hid] at hpair

/--
A configuration that loads holds the normal forms of all active entries in their order, with
distinct ids; two active entries of one id are a fault.  The single vault is active exactly if
neither the file nor the address list names a vault and both of its variables are set.  An entry of
the file that is switched off still stands in the way of entries with its id and of the single vault.
-/
theorem load_keeps_active_entries (order : FaultOrder) (env : Variables) (files : Files) :
    (∀ config, load order env files = .ok config → ∃ file, readSettings env files = .ok file ∧
        List.Forall₂ (fun e normal => e.normalize = .ok normal) (activeEntries env file)
          config.vaults ∧
        config.vaultIds.Nodup) ∧
      ∀ file, readSettings env files = .ok file →
        (fallbackEntries env file ≠ [] ↔
          (fileEntries file = [] ∧ addressEntries env file = []) ∧
            env.IsSet "VAULT_ADDR" ∧ env.IsSet "VAULT_READ_TOKEN") ∧
        (∀ e ∈ fallbackEntries env file, e.IsSingle env) ∧
        (∀ e ∈ file.vaults, e.id ≠ "" → e.isEnabled = false →
          (∀ other ∈ addressEntries env file, other.id ≠ e.id) ∧
            fallbackEntries env file = []) ∧
        ∀ e other normal same, [e, other].Sublist (activeEntries env file) →
          e.normalize = .ok normal → other.normalize = .ok same → normal.id = same.id →
          ∃ message, load order env files = .error (.config message) := by
  refine ⟨fun config hload => ?_, fun file hfile => ⟨fallbackEntries_ne_nil_iff,
    fun e he => isSingle_of_mem_fallbackEntries he, fun e he hid _ => ?_,
    fun e other normal same hplaces hnormal hsame hid =>
      load_of_repeated_id hfile hplaces hnormal hsame hid⟩⟩
  · obtain ⟨file, hfile, hnormals, -, hnodup⟩ := normals_of_load hload
    exact ⟨file, hfile, hnormals, hnodup⟩
  · have hnamed : e ∈ fileEntries file := List.mem_filter.mpr ⟨he, by simpa using hid⟩
    constructor
    · intro other hother
      have hfree := (List.mem_filter.mp hother).2
      rw [decide_eq_true_eq] at hfree
      exact hfree e hnamed
    · by_contra hne
      have hnone := (fallbackEntries_ne_nil_iff.mp hne).1.1
      rw [hnone] at hnamed
      cases hnamed

def sampleFile : SettingsFile :=
  { SettingsFile.empty with
    vaults :=
      [{ VaultEntry.empty with id := "a", enabled := some false },
        { VaultEntry.empty with id := "b", address := "http://b", token := ⟨"r"⟩ }] }

def sampleFiles : Files :=
  .ofList [("settings.json", .file (Bytes.utf8
    ("\x7b\"vaults\":[\x7b\"id\":\"a\",\"enabled\":false\x7d," ++
      "\x7b\"id\":\"b\",\"address\":\"http://b\",\"token\":\"r\"\x7d]\x7d")))]

def sampleVariables (addresses : String) : Variables :=
  .ofList [("VAULT_ADDRS", addresses), ("VAULT_ADDR", "http://d"), ("VAULT_READ_TOKEN", "r")]

/-- The ids are trimmed too late for the second address list to give way to the file. -/
theorem load_keeps_active_entries_of_sample :
    (∃ config,
        load .addressFirst (sampleVariables "a@http://a,c@http://c") sampleFiles = .ok config ∧
        config.vaultIds = ["b", "c"] ∧ config.vaultIds.Nodup) ∧
      fallbackEntries (sampleVariables "a@http://a") sampleFile = [] ∧
      ∃ message,
        load .addressFirst (sampleVariables "b @http://a") sampleFiles =
          .error (.config message) := by
  have hread : ∀ addresses, readSettings (sampleVariables addresses) sampleFiles =
      .ok sampleFile := by
    intro addresses
    have hvalues : (sampleVariables addresses).value? "PKIVIEW_SETTINGS_PATH" = none ∧
        deploymentName? (sampleVariables addresses) = none := ⟨rfl, rfl⟩
    rw [readSettings, hvalues.1, hvalues.2]
    decide +kernel
  refine ⟨?_, ?_, ?_⟩
  · have hids : (load .addressFirst (sampleVariables "a@http://a,c@http://c")
        sampleFiles).toOption.map vaultIds = some ["b", "c"] := by decide +kernel
    cases hload : load .addressFirst (sampleVariables "a@http://a,c@http://c") sampleFiles with
    | error e => simp [hload, Except.toOption] at hids
    | ok config =>
        obtain ⟨-, -, -, hnodup⟩ :=
          (load_keeps_active_entries .addressFirst _ sampleFiles).1 config hload
        exact ⟨config, rfl, by simpa [hload, Except.toOption] using hids, hnodup⟩
  · obtain ⟨-, -, hoff, -⟩ := (load_keeps_active_entries .addressFirst _ sampleFiles).2 sampleFile
      (hread "a@http://a")
    exact (hoff { VaultEntry.empty with id := "a", enabled := some false }
      (by decide) (by decide) rfl).2
  · obtain ⟨-, -, -, hrepeated⟩ :=
      (load_keeps_active_entries .addressFirst _ sampleFiles).2 sampleFile (hread "b @http://a")
    let named : VaultEntry :=
      { VaultEntry.empty with id := "b", address := "http://b", token := ⟨"r"⟩ }
    let listed : VaultEntry :=
      { VaultEntry.empty with
        id := "b ", address := "http://a", token := ⟨"r"⟩, mount := "pki", mounts := ["pki"] }
    exact hrepeated named listed named.completed listed.completed (by decide +kernel)
      (by decide +kernel) (by decide +kernel) (by decide +kernel)

end Configuration
end CertCatalog
