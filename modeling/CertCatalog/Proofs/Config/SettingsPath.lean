import CertCatalog.Proofs.Config.Scalars
import Mathlib.Logic.Function.Basic

/-!
# The settings file of a deployment

The name of the deployment in the variables has two readers: one takes it for a deployment, whose
words are synonyms, and the other one puts it into the name of a settings file as it is spelled,
apart from case and blanks around it.  So two words for one deployment may load different files.
-/

namespace CertCatalog

open CertCatalog.Text

/-! ## Variables that differ in the name of the deployment -/

namespace Variables

def naming (env : Variables) (name : String) : Variables :=
  Function.update env "PKIVIEW_ENV" (some name)

def SameElsewhere (env other : Variables) : Prop :=
  ∀ name, name ≠ "PKIVIEW_ENV" → env.value? name = other.value? name

theorem value?_naming_of_ne (env : Variables) (text : String) {name : String}
    (hname : name ≠ "PKIVIEW_ENV") : (env.naming text).value? name = env.value? name := by
  rw [value?, naming, Function.update_of_ne hname, value?]

theorem sameElsewhere_naming (env : Variables) (text other : String) :
    SameElsewhere (env.naming text) (env.naming other) := by
  intro name hname
  rw [value?_naming_of_ne env text hname, value?_naming_of_ne env other hname]

variable {env other : Variables}

theorem SameElsewhere.firstValue?_eq (h : SameElsewhere env other) {names : List String}
    (hnames : "PKIVIEW_ENV" ∉ names) : env.firstValue? names = other.firstValue? names := by
  induction names with
  | nil => rfl
  | cons name rest ih =>
      obtain ⟨hname, hrest⟩ := not_or.mp (mt List.mem_cons.mpr hnames)
      rw [firstValue?, firstValue?, List.findSome?_cons, List.findSome?_cons,
        h name (Ne.symm hname)]
      cases other.value? name with
      | some value => rfl
      | none => exact ih hrest

end Variables

namespace Configuration

variable {env other : Variables}

theorem deploymentName?_naming (env : Variables) {text : String}
    (hfilled : isAllBlank text = false) :
    deploymentName? (env.naming text) = some (trim text) := by
  have hvalue : (env.naming text).value? "PKIVIEW_ENV" = some (trim text) :=
    Variables.value?_eq_some_iff.mpr ⟨text, Function.update_self .., hfilled, rfl⟩
  rw [deploymentName?, Variables.firstValue?, List.findSome?_cons, hvalue]

/-! ## What the rest of loading reads -/

theorem chooseVaults_of_sameElsewhere (h : env.SameElsewhere other) (file : SettingsFile) :
    chooseVaults env file = chooseVaults other file := by
  have htrust : TrustSettings.ofVariables env = TrustSettings.ofVariables other := by
    simp only [TrustSettings.ofVariables, Variables.isSwitchedOn]
    rw [h.firstValue?_eq (by decide), h.firstValue?_eq (by decide), h.firstValue?_eq (by decide)]
  have hlist : AddressList.ofVariables env = AddressList.ofVariables other := by
    simp only [AddressList.ofVariables, AddressList.Defaults.ofVariables, htrust]
    rw [h "VAULT_ADDRS" (by decide), h "VAULT_READ_TOKEN" (by decide)]
  have hsingle : VaultEntry.single? env = VaultEntry.single? other := by
    simp only [VaultEntry.single?, VaultEntry.singleMounts, htrust]
    rw [h "VAULT_ADDR" (by decide), h "VAULT_READ_TOKEN" (by decide), h.firstValue?_eq (by decide)]
  rw [chooseVaults, chooseVaults, hlist, hsingle]

theorem chooseSeconds_of_sameElsewhere (h : env.SameElsewhere other) (name : String)
    (hname : name ≠ "PKIVIEW_ENV") (entry : Option Nat) (usual : Nat) :
    chooseSeconds env name entry usual = chooseSeconds other name entry usual := by
  rw [chooseSeconds, chooseSeconds, h name hname]

variable {order : FaultOrder}

theorem configure_of_sameElsewhere (h : env.SameElsewhere other) {file : SettingsFile}
    (hdeployment : chooseDeployment env file = chooseDeployment other file) :
    configure order env file = configure order other file := by
  have hlogging : ∀ deployment,
      chooseLogging env deployment file = chooseLogging other deployment file := by
    intro deployment
    rw [chooseLogging, chooseLogging, h "PKIVIEW_LOG_LEVEL" (by decide),
      h "PKIVIEW_LOG_FORMAT" (by decide)]
  have hseconds := chooseSeconds_of_sameElsewhere h
  unfold configure
  simp only [hdeployment, hlogging, chooseVaults_of_sameElsewhere h,
    hseconds "PKIVIEW_CACHE_TTL_SECS" (by decide),
    hseconds "PKIVIEW_CACHE_CLEANUP_SECS" (by decide),
    hseconds "PKIVIEW_REQUEST_TIMEOUT_SECS" (by decide)]

/-! ## The chosen file -/

def settingsPath? (env : Variables) (files : Files) : Option String :=
  match env.value? "PKIVIEW_SETTINGS_PATH" with
  | some path => some path
  | none => (settingsPaths (deploymentName? env)).find? files.isFile

theorem readSettings_eq (env : Variables) (files : Files) :
    readSettings env files =
      match settingsPath? env files with
      | some path => SettingsFile.read files path
      | none => .ok SettingsFile.empty := by
  unfold readSettings settingsPath?
  cases env.value? "PKIVIEW_SETTINGS_PATH" <;> rfl

/-- The name of a deployment as a settings file has it. -/
def spelling (text : String) : String :=
  lowerAscii (trim text)

def namedPath (text : String) : String :=
  "settings." ++ spelling text ++ ".json"

theorem settingsPath?_naming (env : Variables) {text : String} (hfilled : isAllBlank text = false)
    (files : Files) :
    settingsPath? (env.naming text) files =
      match env.value? "PKIVIEW_SETTINGS_PATH" with
      | some path => some path
      | none =>
          [namedPath text, "settings.json", "/etc/pkiview/settings.json"].find? files.isFile := by
  rw [settingsPath?, Variables.value?_naming_of_ne env text (by decide),
    deploymentName?_naming env hfilled]
  rfl

/-- Two words for one deployment differ in nothing but the file that is chosen. -/
theorem load_of_settingsPath? {deployment : Deployment} {text word : String}
    (htext : isAllBlank text = false) (hword : isAllBlank word = false)
    (hspelled : deployment.IsSpelled text) (hsynonym : deployment.IsSpelled word)
    {env : Variables} {files : Files}
    (hpath : settingsPath? (env.naming text) files = settingsPath? (env.naming word) files) :
    load order (env.naming text) files = load order (env.naming word) files := by
  have hread : readSettings (env.naming text) files = readSettings (env.naming word) files := by
    rw [readSettings_eq, readSettings_eq, hpath]
  have hdeployment : ∀ {name : String}, isAllBlank name = false → deployment.IsSpelled name →
      ∀ file, chooseDeployment (env.naming name) file = .ok deployment := by
    intro name hname hnamed file
    have htrimmed : deployment.IsSpelled (trim name) := by
      rwa [Deployment.IsSpelled, trim_trim]
    rw [chooseDeployment, deploymentName?_naming env hname]
    exact Deployment.ofText_eq_ok_iff.mpr htrimmed
  rw [load_eq, load_eq, hread]
  refine congrArg _ (funext fun file => ?_)
  refine configure_of_sameElsewhere (Variables.sameElsewhere_naming env text word) ?_
  rw [hdeployment htext hspelled, hdeployment hword hsynonym]

/-! ## Synonyms -/

def filesFor (word : String) : Files :=
  .ofList [("settings." ++ word ++ ".json",
    .file (Bytes.utf8 "\x7b\"cache\":\x7b\"ttl_secs\":7\x7d\x7d"))]

def noVariables : Variables :=
  fun _ => none

theorem spelling_ne_empty {text : String} (hfilled : isAllBlank text = false) :
    spelling text ≠ "" := by
  intro hempty
  have hlength := congrArg String.toList hempty
  rw [spelling, lowerAscii, String.toList_ofList, String.toList_empty, List.map_eq_nil_iff,
    String.toList_eq_nil_iff, trim_eq_empty_iff] at hlength
  rw [hfilled] at hlength
  cases hlength

def longName : Deployment → String
  | .development => "development"
  | .production => "production"

theorem spelling_cases {deployment : Deployment} {text : String}
    (hfilled : isAllBlank text = false) (hspelled : deployment.IsSpelled text) :
    spelling text = deployment.name ∨ spelling text = longName deployment := by
  have hmem : spelling text ∈ deployment.words := hspelled
  have hne := spelling_ne_empty hfilled
  cases deployment <;> simpa [Deployment.words, Deployment.name, longName, hne] using hmem

theorem spelling_spelling {deployment : Deployment} {text : String}
    (hfilled : isAllBlank text = false) (hspelled : deployment.IsSpelled text) :
    isAllBlank (spelling text) = false ∧ deployment.IsSpelled (spelling text) ∧
      spelling (spelling text) = spelling text := by
  rcases spelling_cases hfilled hspelled with h | h
  · rw [h]
    cases deployment <;> exact ⟨by decide, by decide, by decide⟩
  · rw [h]
    cases deployment <;> exact ⟨by decide, by decide, by decide⟩

theorem load_filesFor_ne {deployment : Deployment} {text word : String}
    (htext : isAllBlank text = false) (hword : isAllBlank word = false)
    (hspelled : deployment.IsSpelled text) (hsynonym : deployment.IsSpelled word)
    (hne : spelling text ≠ spelling word) :
    load order (noVariables.naming text) (filesFor (spelling text)) ≠
      load order (noVariables.naming word) (filesFor (spelling text)) := by
  -- Case and blanks make no difference, so that only the four pairs of names are left.
  have hplain : ∀ {name : String}, isAllBlank name = false → deployment.IsSpelled name →
      ∀ files, load order (noVariables.naming name) files =
        load order (noVariables.naming (spelling name)) files := by
    intro name hname hnamed files
    obtain ⟨hfilled, hsame, hplain⟩ := spelling_spelling hname hnamed
    refine load_of_settingsPath? hname hfilled hnamed hsame ?_
    rw [settingsPath?_naming _ hname, settingsPath?_naming _ hfilled, namedPath, namedPath, hplain]
  rw [hplain htext hspelled, hplain hword hsynonym]
  rcases spelling_cases htext hspelled with hshort | hlong
  · rcases spelling_cases hword hsynonym with hsame | hother
    · exact absurd (hshort.trans hsame.symm) hne
    · rw [hshort, hother]
      cases order <;> cases deployment <;> decide +kernel
  · rcases spelling_cases hword hsynonym with hother | hsame
    · rw [hlong, hother]
      cases order <;> cases deployment <;> decide +kernel
    · exact absurd (hlong.trans hsame.symm) hne

/--
Two words for one deployment choose the same file and load alike wherever a file is named
explicitly, the words are spelled alike, or neither word has a file of its own.  Without an
explicit file they load alike everywhere exactly if they are spelled alike.
-/
theorem synonyms_load_alike_iff {deployment : Deployment} {text word : String}
    (htext : isAllBlank text = false) (hword : isAllBlank word = false)
    (hspelled : deployment.IsSpelled text) (hsynonym : deployment.IsSpelled word) :
    (∀ env : Variables, ∀ files : Files,
        env.IsSet "PKIVIEW_SETTINGS_PATH" ∨ spelling text = spelling word ∨
          files.isFile (namedPath text) = false ∧ files.isFile (namedPath word) = false →
        settingsPath? (env.naming text) files = settingsPath? (env.naming word) files ∧
          load order (env.naming text) files = load order (env.naming word) files) ∧
      ((∀ env : Variables, ∀ files : Files, ¬env.IsSet "PKIVIEW_SETTINGS_PATH" →
          load order (env.naming text) files = load order (env.naming word) files) ↔
        spelling text = spelling word) := by
  have halike : ∀ env : Variables, ∀ files : Files,
      env.IsSet "PKIVIEW_SETTINGS_PATH" ∨ spelling text = spelling word ∨
        files.isFile (namedPath text) = false ∧ files.isFile (namedPath word) = false →
      settingsPath? (env.naming text) files = settingsPath? (env.naming word) files := by
    intro env files hcase
    rw [settingsPath?_naming env htext, settingsPath?_naming env hword]
    rcases hcase with ⟨path, hpath, hfilled⟩ | hsame | ⟨hfree, hother⟩
    · rw [Variables.value?_eq_some_iff.mpr ⟨path, hpath, hfilled, rfl⟩]
    · rw [namedPath, namedPath, hsame]
    · simp only [List.find?_cons, hfree, hother]
  have hload : ∀ env : Variables, ∀ files : Files, _ →
      load order (env.naming text) files = load order (env.naming word) files :=
    fun env files hcase =>
      load_of_settingsPath? htext hword hspelled hsynonym (halike env files hcase)
  refine ⟨fun env files hcase => ⟨halike env files hcase, hload env files hcase⟩, ?_, ?_⟩
  · intro hall
    by_contra hne
    refine load_filesFor_ne htext hword hspelled hsynonym hne (hall _ _ ?_)
    rintro ⟨path, hpath, -⟩
    cases hpath
  · exact fun hsame env files _ => hload env files (.inr (.inl hsame))

/-- Case and blanks make no difference, and neither does the long name where it has no file. -/
theorem synonyms_load_alike_of_production :
    load .addressFirst (noVariables.naming " PRODUCTION ") (filesFor "production") =
        load .addressFirst (noVariables.naming "production") (filesFor "production") ∧
      load .addressFirst (noVariables.naming "production") (filesFor "other") =
        load .addressFirst (noVariables.naming "prod") (filesFor "other") ∧
      ¬∀ env : Variables, ∀ files : Files, ¬env.IsSet "PKIVIEW_SETTINGS_PATH" →
        load .addressFirst (env.naming "production") files =
          load .addressFirst (env.naming "prod") files := by
  have hspelled : ∀ word ∈ [" PRODUCTION ", "production", "prod"],
      isAllBlank word = false ∧ Deployment.production.IsSpelled word := by decide
  simp only [List.mem_cons, List.not_mem_nil, or_false, forall_eq_or_imp, forall_eq] at hspelled
  obtain ⟨⟨hupper, hupperSpelled⟩, ⟨hlong, hlongSpelled⟩, hshort, hshortSpelled⟩ := hspelled
  refine ⟨?_, ?_, ?_⟩
  · exact ((synonyms_load_alike_iff hupper hlong hupperSpelled hlongSpelled).1 noVariables _
      (.inr (.inl (by decide)))).2
  · exact ((synonyms_load_alike_iff hlong hshort hlongSpelled hshortSpelled).1 noVariables _
      (.inr (.inr (by decide +kernel)))).2
  · rw [(synonyms_load_alike_iff hlong hshort hlongSpelled hshortSpelled).2]
    decide

/-- The long name of a deployment passes over the settings file that has its short name. -/
theorem long_name_misses_settings :
    ¬∀ env : Variables, ∀ files : Files, ∀ text word : String, ∀ deployment : Deployment,
      ¬env.IsSet "PKIVIEW_SETTINGS_PATH" → isAllBlank text = false → isAllBlank word = false →
      deployment.IsSpelled text → deployment.IsSpelled word →
      load .addressFirst (env.naming text) files = load .addressFirst (env.naming word) files := by
  intro hall
  have hunset : ¬noVariables.IsSet "PKIVIEW_SETTINGS_PATH" := by
    rintro ⟨path, hpath, -⟩
    cases hpath
  have hsame := hall noVariables (filesFor "prod") "production" "prod" .production hunset
    (by decide) (by decide) (by decide) (by decide)
  have hlong : (load .addressFirst (noVariables.naming "production") (filesFor "prod")).toOption.map
      Configuration.cacheTtl = some 300 := by decide +kernel
  have hshort : (load .addressFirst (noVariables.naming "prod") (filesFor "prod")).toOption.map
      Configuration.cacheTtl = some 7 := by decide +kernel
  rw [hsame, hshort] at hlong
  cases hlong

end Configuration
end CertCatalog
