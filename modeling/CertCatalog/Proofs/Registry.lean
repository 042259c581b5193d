import CertCatalog.Proofs.Catalog.Checks
import CertCatalog.Proofs.Catalog.Listing
import CertCatalog.Proofs.Catalog.FanOut
import CertCatalog.Proofs.Config.Normal
import CertCatalog.Registry

/-!
# Configured vaults

Normalization and the catalog have different notions of a valid id.  A normal id has no separator
and is not empty; the catalog wants it trimmed as well.  Ids that are given are trimmed, and ids that
are derived from an address are not.  The main statement tells which configured vaults stay in the
catalog.
-/

namespace CertCatalog

open CertCatalog.CertificateId CertCatalog.Text CertCatalog.VaultEntry

/-! ## Names of the assembly -/

theorem Table.mem_keys_insert {α : Type} {t : Table α} {key other : String} {value : α} :
    other ∈ (t.insert key value).keys ↔ other = key ∨ other ∈ t.keys := by
  simp only [Table.keys, Table.insert, Table.erase, Table.filter, List.map_cons, List.mem_cons,
    List.mem_map, List.mem_filter, bne_iff_ne]
  constructor
  · rintro (rfl | ⟨entry, ⟨hentry, -⟩, rfl⟩)
    · exact .inl rfl
    · exact .inr ⟨entry, hentry, rfl⟩
  · rintro (rfl | ⟨entry, hentry, rfl⟩)
    · exact .inl rfl
    · by_cases hkey : entry.1 = key
      · exact .inl hkey
      · exact .inr ⟨entry, ⟨hentry, hkey⟩, rfl⟩

namespace Registry

theorem Assembly.mem_keys_add {a : Assembly} {entry : VaultEntry} {client : Outcome Client}
    {id : String} :
    id ∈ (a.add entry client).names.keys ↔ id = entry.id ∨ id ∈ a.names.keys := by
  cases client <;> exact Table.mem_keys_insert

theorem Assembly.mem_keys_foldl {client : VaultEntry → Outcome Client} {entries : List VaultEntry}
    {a : Assembly} {id : String} :
    id ∈ (entries.foldl (fun a entry => a.add entry (client entry)) a).names.keys ↔
      id ∈ entries.map (·.id) ∨ id ∈ a.names.keys := by
  induction entries generalizing a with
  | nil => simp
  | cons entry rest ih =>
      rw [List.foldl_cons, ih, Assembly.mem_keys_add, List.map_cons, List.mem_cons]
      tauto

theorem Assembly.mem_keys_ofConfiguration {config : Configuration} {files : Files} {id : String} :
    id ∈ (Assembly.ofConfiguration config files).names.keys ↔ id ∈ config.vaultIds := by
  refine Assembly.mem_keys_foldl.trans ?_
  simp [Assembly.empty, Table.keys, Table.empty, Configuration.vaultIds]

/-! ## The catalog -/

theorem catalog_ofConfiguration {config : Configuration} (hne : config.vaults ≠ [])
    (files : Files) :
    (ofConfiguration config files).1.catalog =
      some (Catalog.ofClients config.vaultIds (Assembly.ofConfiguration config files).names) := by
  simp [ofConfiguration, hne]

theorem mem_vaultIds_iff {config : Configuration} {files : Files} {id : String} :
    id ∈ (ofConfiguration config files).1.vaultIds ↔
      id ∈ config.vaultIds ∧ isAddressable id = true := by
  by_cases hne : config.vaults = []
  · simp [vaultIds, ofConfiguration, Configuration.vaultIds, hne]
  · rw [vaultIds, catalog_ofConfiguration hne]
    exact Catalog.mem_vaultIds_iff fun _ => Assembly.mem_keys_ofConfiguration

theorem vaultIds_eq_iff {config : Configuration} (hnodup : config.vaultIds.Nodup)
    (files : Files) :
    (ofConfiguration config files).1.vaultIds = config.vaultIds ↔
      ∀ id ∈ config.vaultIds, isAddressable id = true := by
  by_cases hne : config.vaults = []
  · simp [vaultIds, ofConfiguration, Configuration.vaultIds, hne]
  · rw [vaultIds, catalog_ofConfiguration hne]
    exact Catalog.vaultIds_eq_wanted_iff (fun _ => Assembly.mem_keys_ofConfiguration) hnodup

end Registry

/-! ## What goes through all vaults -/

namespace Catalog

/-- Listings, fan-outs and checks of the catalog go through these vaults, in this order. -/
structure GoesThrough (c : Catalog) (vaultIds : List String) : Prop where
  list : ∀ fleet, (c.answers fleet).map Prod.fst = vaultIds
  listByVault : ∀ deadline fleet, (c.listByVault deadline fleet).1.map (·.vaultId) = vaultIds
  check : ∀ fleet, (c.check fleet).1 = .ok () →
    (∀ id ∈ vaultIds, (c.client? id).isSome = true) ∧
      (c.check fleet).2.log =
        fleet.log ++ vaultIds.filterMap fun id => (c.client? id).map (·, ClientStep.check)

theorem goesThrough_vaultIds (c : Catalog) : c.GoesThrough c.vaultIds where
  list := c.vaultIds_answers
  listByVault := c.vaultIds_listByVault
  check fleet hok := by
    unfold Catalog.check at hok ⊢
    cases hempty : c.vaultIds.isEmpty with
    | true =>
        rw [hempty] at hok
        cases hok
    | false =>
        rw [hempty] at hok
        exact log_checkFrom hok

end Catalog

/-! ## Normal ids -/

theorem VaultEntry.trim_normalId_iff (e : VaultEntry) :
    trim e.normalId = e.normalId ↔
      (isAllBlank e.id = true →
        trim (idOfAddress (trim e.address)) = idOfAddress (trim e.address)) := by
  unfold normalId
  dsimp only
  split
  · next hempty =>
      have hblank : isAllBlank e.id = true :=
        (trim_eq_empty_iff e.id).mp (String.isEmpty_iff.mp hempty)
      exact ⟨fun htrim _ => htrim, fun htrim => htrim hblank⟩
  · next hgiven =>
      refine ⟨fun _ hblank => ?_, fun _ => trim_trim e.id⟩
      exact absurd (String.isEmpty_iff.mpr (trim_of_isAllBlank hblank)) hgiven

namespace Registry

variable {order : FaultOrder}

theorem isAddressable_iff_of_normalizeAll {entries normals : List VaultEntry}
    (hnormals : normalizeAll order entries = .ok normals) {config : Configuration}
    (hconfig : config.vaults = normals) {id : String} (hid : id ∈ config.vaultIds) :
    isAddressable id = true ↔ trim id = id := by
  rw [Configuration.vaultIds, hconfig] at hid
  obtain ⟨normal, hmem, rfl⟩ := List.mem_map.mp hid
  obtain ⟨-, hseparator, hnonempty⟩ := (normalizeFrom_eq_ok hnormals).2.2 normal hmem
  rw [isAddressable_iff]
  exact ⟨fun h => h.2.1, fun htrim => ⟨hnonempty, htrim, hseparator⟩⟩

theorem forall_vaultIds_iff {entries normals : List VaultEntry}
    (hnormals : normalizeAll order entries = .ok normals) {config : Configuration}
    (hconfig : config.vaults = normals) :
    (∀ id ∈ config.vaultIds, trim id = id) ↔
      ∀ e ∈ entries, e.isEnabled = true → trim e.normalId = e.normalId := by
  rw [Configuration.vaultIds, hconfig, normals_eq_of_normalizeAll hnormals]
  simp only [List.forall_mem_map, List.mem_filter, and_imp, id_completed]

/--
Of the vaults that normalization lets through those stay in the catalog whose ids are trimmed, and
all stay, in their order, exactly if no id that is derived from an address has a blank at an end.
What stays is gone through by listings, fan-outs and checks, and composed ids lead back to it; no id
leads to a vault that does not stay.
-/
theorem normal_vaults_stay_iff_trimmed {entries normals : List VaultEntry}
    (hnormals : normalizeAll order entries = .ok normals) {config : Configuration}
    (hconfig : config.vaults = normals) (files : Files) :
    ((ofConfiguration config files).1.vaultIds = config.vaultIds ↔
        ∀ e ∈ entries, e.isEnabled = true → isAllBlank e.id = true →
          trim (idOfAddress (trim e.address)) = idOfAddress (trim e.address)) ∧
      (∀ id ∈ config.vaultIds,
        id ∈ (ofConfiguration config files).1.vaultIds ↔ trim id = id) ∧
      (config.vaults ≠ [] → ∃ catalog,
        (ofConfiguration config files).1.catalog = some catalog ∧
          catalog.GoesThrough (ofConfiguration config files).1.vaultIds ∧
          ∀ id ∈ config.vaultIds,
            (trim id = id → ∀ localId, isAllBlank localId = false →
              parse catalog.vaultIds (compose id localId) = .ok (id, trim localId)) ∧
            (trim id ≠ id → ∀ value localId,
              parse catalog.vaultIds value ≠ .ok (id, localId))) := by
  have haddressable := fun id hid =>
    @isAddressable_iff_of_normalizeAll _ _ _ hnormals _ hconfig id hid
  have hnodup : config.vaultIds.Nodup := by
    rw [Configuration.vaultIds, hconfig]
    exact (normalizeFrom_eq_ok hnormals).2.1
  refine ⟨?_, fun id hid => ?_, fun hne => ?_⟩
  · rw [vaultIds_eq_iff hnodup, forall₂_congr haddressable, forall_vaultIds_iff hnormals hconfig]
    simp only [trim_normalId_iff]
  · rw [mem_vaultIds_iff, haddressable id hid]
    exact and_iff_right hid
  · have hcatalog := catalog_ofConfiguration hne files
    refine ⟨_, hcatalog, ?_, fun id hid => ⟨fun htrim localId hlocal => ?_,
      fun hblank value localId hparse => ?_⟩⟩
    · rw [vaultIds, hcatalog]
      exact Catalog.goesThrough_vaultIds _
    · exact parse_compose ((haddressable id hid).mpr htrim) hlocal _
    · exact hblank ((haddressable id hid).mp
        (isAddressable_of_parse (fun _ => Catalog.isAddressable_of_mem_vaultIds) hparse))

def addressedEntry (id address : String) : VaultEntry :=
  { VaultEntry.empty with id := id, address := address, token := ⟨"r"⟩ }

def plainConfiguration (vaults : List VaultEntry) : Configuration :=
  { deployment := .development
    logging := .ofDeployment .development
    cacheTtl := Configuration.defaultCacheTtl
    cleanupInterval := Configuration.defaultCleanupInterval
    requestTimeout := Configuration.defaultRequestTimeout
    vaults := vaults }

def plainEntries : List VaultEntry :=
  [addressedEntry " main " "http://a", addressedEntry "" "https://h:8200/"]

theorem normal_vaults_stay_of_plain :
    normalizeAll .addressFirst plainEntries = .ok (plainEntries.map completed) ∧
      (ofConfiguration (plainConfiguration (plainEntries.map completed)) (.ofList [])).1.vaultIds =
        ["main", "h-8200"] ∧
      ∃ catalog, (ofConfiguration (plainConfiguration (plainEntries.map completed))
          (.ofList [])).1.catalog = some catalog ∧
        parse catalog.vaultIds "h-8200|pki:01" = .ok ("h-8200", "pki:01") := by
  have hnormals : normalizeAll .addressFirst plainEntries = .ok (plainEntries.map completed) := by
    decide +kernel
  have hconfig : (plainConfiguration (plainEntries.map completed)).vaults =
      plainEntries.map completed := rfl
  have hvaultIds : (plainConfiguration (plainEntries.map completed)).vaultIds =
      ["main", "h-8200"] := by decide +kernel
  obtain ⟨hstay, -, hcatalog⟩ :=
    normal_vaults_stay_iff_trimmed hnormals hconfig (.ofList [])
  rw [hvaultIds] at hstay hcatalog
  obtain ⟨catalog, hsome, -, hids⟩ := hcatalog (hconfig ▸ List.cons_ne_nil _ _)
  have hall := hstay.mpr (by decide +kernel)
  have hlocal : isAllBlank "pki:01" = false ∧ trim "pki:01" = "pki:01" := by decide +kernel
  have hparse := (hids "h-8200" (by simp)).1 (by decide +kernel) "pki:01" hlocal.1
  have hcompose : compose "h-8200" "pki:01" = "h-8200|pki:01" := by
    decide +kernel
  rw [hcompose, hlocal.2] at hparse
  exact ⟨hnormals, hall, catalog, hsome, hparse⟩

/-- The slash before the last one becomes a dash at the end, and the blank after it stays. -/
theorem normal_vault_disappears :
    normalizeAll .addressFirst [addressedEntry " " "https://h/ /"] =
        .ok [(addressedEntry " " "https://h/ /").completed] ∧
      (plainConfiguration [(addressedEntry " " "https://h/ /").completed]).vaultIds = ["h- "] ∧
      (ofConfiguration (plainConfiguration [(addressedEntry " " "https://h/ /").completed])
        (.ofList [])).1.vaultIds = [] :=
  ⟨by decide +kernel, by decide +kernel, by decide +kernel⟩

end Registry
end CertCatalog
