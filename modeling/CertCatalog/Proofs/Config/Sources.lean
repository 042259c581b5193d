import CertCatalog.Config.Load
import CertCatalog.Proofs.Config.Normal

/-!
# Where configured vaults come from

The settings file is preferred to the address list, and the variables of a single vault count only
if neither of the two names a vault.  Which entries are preferred is settled before entries that are
switched off are left out, and before ids are trimmed or derived.
-/

namespace CertCatalog

open CertCatalog.Text

/-! ## Entries of the address list -/

namespace AddressList

theorem id_ne_some_empty_of_ofText? {text : String} {item : Item}
    (hitem : Item.ofText? text = some item) : item.id ≠ some "" := by
  have hsplit : (splitId text).1 ≠ some "" := by
    unfold splitId
    split
    · next id rest _ =>
        split
        · simp
        · next hgiven =>
            intro hempty
            obtain rfl : id = "" := by simpa using hempty
            exact hgiven rfl
    · simp
  have hid : item.id = (splitId text).1 := by
    unfold Item.ofText? at hitem
    dsimp only at hitem
    split at hitem
    · cases hitem; rfl
    · cases hitem; rfl
    · cases hitem; rfl
    · cases hitem
  rwa [hid]

/-- Items without an id are numbered, so every entry has one. -/
theorem id_ne_empty_of_complete? {defaults : Defaults} {place : Nat} {item : Item} {e : VaultEntry}
    (hitem : item.id ≠ some "") (he : item.complete? defaults place = some e) :
    e.id ≠ "" ∧ e.isEnabled = true := by
  unfold Item.complete? at he
  dsimp only at he
  split at he
  · cases he
  · cases he
    refine ⟨?_, rfl⟩
    show item.id.getD ("vault-" ++ toString place) ≠ ""
    cases hid : item.id with
    | none =>
        intro hempty
        have hlength := congrArg String.length hempty
        simp [String.length_append] at hlength
    | some id =>
        intro hempty
        exact hitem (hid.trans (congrArg some hempty))

theorem id_ne_empty_of_mem_entriesFrom {defaults : Defaults} {place : Nat} {pieces : List String}
    {e : VaultEntry} (he : e ∈ entriesFrom defaults place pieces) :
    e.id ≠ "" ∧ e.isEnabled = true := by
  induction pieces generalizing place with
  | nil => cases he
  | cons piece rest ih =>
      rcases List.mem_append.mp he with hfirst | hrest
      · obtain ⟨text, -, hentry⟩ := Option.bind_eq_some_iff.mp (Option.mem_toList.mp hfirst)
        obtain ⟨item, hitem, hcomplete⟩ := Option.bind_eq_some_iff.mp hentry
        exact id_ne_empty_of_complete? (id_ne_some_empty_of_ofText? hitem) hcomplete
      · exact ih hrest

theorem id_ne_empty_of_mem_ofVariables {env : Variables} {e : VaultEntry}
    (he : e ∈ ofVariables env) : e.id ≠ "" ∧ e.isEnabled = true := by
  unfold ofVariables at he
  split at he
  · exact id_ne_empty_of_mem_entriesFrom he
  · cases he

end AddressList

/-! ## The single vault -/

theorem Variables.value?_eq_some_iff {env : Variables} {name value : String} :
    env.value? name = some value ↔
      ∃ text, env name = some text ∧ isAllBlank text = false ∧ value = trim text := by
  simp only [Variables.value?, Option.bind_eq_some_iff, nonBlank?_eq_some_iff]

structure VaultEntry.IsSingle (env : Variables) (e : VaultEntry) : Prop where
  id : e.id = "default"
  enabled : e.isEnabled = true
  address : ∃ text, env "VAULT_ADDR" = some text ∧ isAllBlank text = false ∧
    e.address = trim text
  token : ∃ text, env "VAULT_READ_TOKEN" = some text ∧ isAllBlank text = false ∧
    e.token.exposed = trim text

theorem VaultEntry.isSingle_of_single? {env : Variables} {e : VaultEntry}
    (he : single? env = some e) : e.IsSingle env := by
  obtain ⟨address, haddress, hrest⟩ := Option.bind_eq_some_iff.mp he
  obtain ⟨token, htoken, hentry⟩ := Option.bind_eq_some_iff.mp hrest
  cases hentry
  exact ⟨rfl, rfl, Variables.value?_eq_some_iff.mp haddress,
    Variables.value?_eq_some_iff.mp htoken⟩

def Variables.IsSet (env : Variables) (name : String) : Prop :=
  ∃ text, env name = some text ∧ isAllBlank text = false

theorem VaultEntry.exists_single?_iff {env : Variables} :
    (∃ e, single? env = some e) ↔ env.IsSet "VAULT_ADDR" ∧ env.IsSet "VAULT_READ_TOKEN" := by
  constructor
  · rintro ⟨e, he⟩
    have hsingle := isSingle_of_single? he
    obtain ⟨address, haddress, hgiven, -⟩ := hsingle.address
    obtain ⟨token, htoken, hfilled, -⟩ := hsingle.token
    exact ⟨⟨address, haddress, hgiven⟩, token, htoken, hfilled⟩
  · rintro ⟨⟨address, haddress, hgiven⟩, token, htoken, hfilled⟩
    have haddress := Variables.value?_eq_some_iff.mpr ⟨address, haddress, hgiven, rfl⟩
    have htoken := Variables.value?_eq_some_iff.mpr ⟨token, htoken, hfilled, rfl⟩
    simp [single?, haddress, htoken]

/-! ## Choosing entries -/

namespace Configuration

/-- The entries of a settings file that have an id, switched off or not. -/
def fileEntries (file : SettingsFile) : List VaultEntry :=
  file.vaults.filter fun e => e.id ≠ ""

def addressEntries (env : Variables) (file : SettingsFile) : List VaultEntry :=
  (AddressList.ofVariables env).filter fun e => ∀ other ∈ fileEntries file, e.id ≠ other.id

def fallbackEntries (env : Variables) (file : SettingsFile) : List VaultEntry :=
  if fileEntries file = [] ∧ addressEntries env file = [] then (VaultEntry.single? env).toList
  else []

theorem merge_eq (env : Variables) (file : SettingsFile) :
    VaultEntry.merge file.vaults (AddressList.ofVariables env) =
      fileEntries file ++ addressEntries env file := by
  have hfile : (file.vaults.filter fun e => !e.id.isEmpty) = fileEntries file := by
    refine List.filter_congr fun e _ => ?_
    by_cases hid : e.id = "" <;> simp [hid]
  unfold VaultEntry.merge addressEntries
  dsimp only
  rw [hfile]
  congr 1
  refine List.filter_congr fun e he => ?_
  have hid := (AddressList.id_ne_empty_of_mem_ofVariables he).1
  rw [Bool.eq_iff_iff, String.isEmpty_eq_false_iff.mpr hid]
  simp only [Bool.not_false, Bool.true_and, Bool.not_eq_true', ← Bool.not_eq_true,
    List.contains_iff_mem, List.mem_map, not_exists, not_and, decide_eq_true_eq]
  exact forall₂_congr fun other _ => not_congr eq_comm

theorem chooseVaults_eq (env : Variables) (file : SettingsFile) :
    chooseVaults env file =
      fileEntries file ++ addressEntries env file ++ fallbackEntries env file := by
  unfold chooseVaults fallbackEntries
  rw [merge_eq]
  split
  · next hnone =>
      obtain ⟨hfile, haddresses⟩ := List.append_eq_nil_iff.mp hnone
      simp [hfile, haddresses]
  · next hsome =>
      rw [if_neg fun hnone => hsome (List.append_eq_nil_iff.mpr hnone), List.append_nil]

theorem isSingle_of_mem_fallbackEntries {env : Variables} {file : SettingsFile} {e : VaultEntry}
    (he : e ∈ fallbackEntries env file) : e.IsSingle env := by
  unfold fallbackEntries at he
  split at he
  · exact VaultEntry.isSingle_of_single? (Option.mem_toList.mp he)
  · cases he

theorem fallbackEntries_ne_nil_iff {env : Variables} {file : SettingsFile} :
    fallbackEntries env file ≠ [] ↔
      (fileEntries file = [] ∧ addressEntries env file = []) ∧
        env.IsSet "VAULT_ADDR" ∧ env.IsSet "VAULT_READ_TOKEN" := by
  unfold fallbackEntries
  rw [← VaultEntry.exists_single?_iff]
  split
  · next hroom =>
      cases VaultEntry.single? env <;> simp [hroom]
  · next hroom => simp [hroom]

/-- What is normalized: the entries of the three sources in order, switched off ones left out. -/
def activeEntries (env : Variables) (file : SettingsFile) : List VaultEntry :=
  (fileEntries file).filter VaultEntry.isEnabled ++ addressEntries env file ++
    fallbackEntries env file

theorem filter_isEnabled_chooseVaults (env : Variables) (file : SettingsFile) :
    (chooseVaults env file).filter VaultEntry.isEnabled = activeEntries env file := by
  have haddresses : (addressEntries env file).filter VaultEntry.isEnabled =
      addressEntries env file := by
    rw [List.filter_eq_self]
    intro e he
    exact (AddressList.id_ne_empty_of_mem_ofVariables (List.mem_of_mem_filter he)).2
  have hfallback : (fallbackEntries env file).filter VaultEntry.isEnabled =
      fallbackEntries env file := by
    rw [List.filter_eq_self]
    intro e he
    exact (isSingle_of_mem_fallbackEntries he).enabled
  rw [chooseVaults_eq, List.filter_append, List.filter_append, haddresses, hfallback, activeEntries]

end Configuration
end CertCatalog
