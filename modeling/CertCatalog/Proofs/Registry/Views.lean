import CertCatalog.Proofs.Catalog.Broadcasts
import CertCatalog.Proofs.Catalog.MissingClients
import CertCatalog.Proofs.Catalog.SharedCaches
import CertCatalog.Proofs.Registry

/-!
# Views of a registry

A registry keeps the clients of its vaults twice: by themselves and in its catalog.  Both are filled
by one pass over the entries, and whichever clients cannot be set up, they agree afterwards: they name
the same clients, so what happens through the one is seen through the other.
-/

namespace CertCatalog.Registry

open CertCatalog.CertificateId

/-! ## Assembled tables -/

namespace Assembly

/--
The tables tell of each entry whether it has a client, and which one, and they tell nothing of other
vaults.  All clients are clients of entries.
-/
structure Reflects (client : VaultEntry → Outcome Client) (entries : List VaultEntry)
    (a : Assembly) : Prop where
  built : ∀ entry ∈ entries, ∀ c, client entry = .ok c →
    ∃ name, a.vaults.get? entry.id = some name ∧ a.clients[name]? = some c
  missing : ∀ entry ∈ entries, ∀ e, client entry = .error e →
    a.names.get? entry.id = some none
  unknown : ∀ id ∉ entries.map (·.id), a.names.get? id = none
  agree : ∀ id, a.vaults.get? id = (a.names.get? id).join
  clients : ∀ c ∈ a.clients, ∃ entry ∈ entries, client entry = .ok c

variable {client : VaultEntry → Outcome Client} {done : List VaultEntry} {a : Assembly}
  {entry : VaultEntry}

theorem reflects_empty (client : VaultEntry → Outcome Client) : Reflects client [] empty where
  built _ hentry := absurd hentry List.not_mem_nil
  missing _ hentry := absurd hentry List.not_mem_nil
  unknown _ _ := Table.get?_empty _
  agree id := by rw [empty, Table.get?_empty, Table.get?_empty, Option.join_none]
  clients _ hc := absurd hc List.not_mem_nil

theorem id_ne_of_not_mem (hfresh : entry.id ∉ done.map (·.id)) {other : VaultEntry}
    (hother : other ∈ done) : other.id ≠ entry.id := by
  intro heq
  exact hfresh (heq ▸ List.mem_map_of_mem hother)

theorem Reflects.add_ok (h : Reflects client done a) (hfresh : entry.id ∉ done.map (·.id))
    {c : Client} (hclient : client entry = .ok c) :
    Reflects client (done ++ [entry]) (a.add entry (.ok c)) where
  built other hother built hbuilt := by
    rcases List.mem_append.mp hother with hold | hlast
    · obtain ⟨name, hname, hplace⟩ := h.built other hold built hbuilt
      refine ⟨name, ?_, ?_⟩
      · exact (Table.get?_insert_of_ne _ _ (id_ne_of_not_mem hfresh hold)).trans hname
      · obtain ⟨hlt, -⟩ := List.getElem?_eq_some_iff.mp hplace
        exact (List.getElem?_append_left hlt).trans hplace
    · obtain rfl := List.mem_singleton.mp hlast
      obtain rfl := Except.ok.inj (hclient.symm.trans hbuilt)
      exact ⟨a.clients.length, Table.get?_insert_self _ _ _, List.getElem?_concat_length⟩
  missing other hother e hfailed := by
    rcases List.mem_append.mp hother with hold | hlast
    · exact (Table.get?_insert_of_ne _ _ (id_ne_of_not_mem hfresh hold)).trans
        (h.missing other hold e hfailed)
    · obtain rfl := List.mem_singleton.mp hlast
      rw [hclient] at hfailed
      cases hfailed
  unknown id hid := by
    simp only [List.map_append, List.mem_append, not_or, List.map_cons, List.map_nil,
      List.mem_singleton] at hid
    exact (Table.get?_insert_of_ne _ _ hid.2).trans (h.unknown id hid.1)
  agree id := by
    by_cases hid : id = entry.id
    · subst hid
      simp only [add, Table.get?_insert_self, Option.join_some]
    · simp only [add, Table.get?_insert_of_ne _ _ hid, h.agree]
  clients built hbuilt := by
    rcases List.mem_append.mp hbuilt with hold | hlast
    · obtain ⟨other, hother, hclient⟩ := h.clients built hold
      exact ⟨other, List.mem_append_left _ hother, hclient⟩
    · obtain rfl := List.mem_singleton.mp hlast
      exact ⟨entry, by simp, hclient⟩

theorem Reflects.add_error (h : Reflects client done a) (hfresh : entry.id ∉ done.map (·.id))
    {e : CatalogError} (hclient : client entry = .error e) :
    Reflects client (done ++ [entry]) (a.add entry (.error e)) where
  built other hother built hbuilt := by
    rcases List.mem_append.mp hother with hold | hlast
    · exact h.built other hold built hbuilt
    · obtain rfl := List.mem_singleton.mp hlast
      rw [hclient] at hbuilt
      cases hbuilt
  missing other hother error hfailed := by
    rcases List.mem_append.mp hother with hold | hlast
    · exact (Table.get?_insert_of_ne _ _ (id_ne_of_not_mem hfresh hold)).trans
        (h.missing other hold error hfailed)
    · obtain rfl := List.mem_singleton.mp hlast
      exact Table.get?_insert_self _ _ _
  unknown id hid := by
    simp only [List.map_append, List.mem_append, not_or, List.map_cons, List.map_nil,
      List.mem_singleton] at hid
    exact (Table.get?_insert_of_ne _ _ hid.2).trans (h.unknown id hid.1)
  agree id := by
    by_cases hid : id = entry.id
    · subst hid
      simp only [add, Table.get?_insert_self, h.agree, h.unknown _ hfresh, Option.join_some,
        Option.join_none]
    · simp only [add, Table.get?_insert_of_ne _ _ hid, h.agree]
  clients built hbuilt := by
    obtain ⟨other, hother, hclient⟩ := h.clients built hbuilt
    exact ⟨other, List.mem_append_left _ hother, hclient⟩

/-- The step lemma: an entry with a new id is reflected once it is added. -/
theorem Reflects.add (h : Reflects client done a) (hfresh : entry.id ∉ done.map (·.id)) :
    Reflects client (done ++ [entry]) (a.add entry (client entry)) := by
  cases hclient : client entry with
  | ok c => exact h.add_ok hfresh hclient
  | error e => exact h.add_error hfresh hclient

/-- The run lemma, over the entries that are left. -/
theorem Reflects.foldl (h : Reflects client done a) {rest : List VaultEntry}
    (hdistinct : ((done ++ rest).map (·.id)).Nodup) :
    Reflects client (done ++ rest) (rest.foldl (fun a entry => a.add entry (client entry)) a) := by
  induction rest generalizing done a with
  | nil => simpa using h
  | cons entry rest ih =>
      have hfresh : entry.id ∉ done.map (·.id) := by
        rw [List.map_append, List.nodup_append] at hdistinct
        exact fun hmem => hdistinct.2.2 _ hmem _ (by simp) rfl
      rw [List.append_cons] at hdistinct ⊢
      exact ih (h.add hfresh) hdistinct

theorem reflects_ofConfiguration {config : Configuration} (hdistinct : config.vaultIds.Nodup)
    (files : Files) :
    Reflects (clientOf config files) config.vaults (ofConfiguration config files) :=
  (reflects_empty (clientOf config files)).foldl hdistinct

variable {entries : List VaultEntry}

theorem Reflects.exists_entry (h : Reflects client entries a) {id : String} {name : Nat}
    (hname : a.vaults.get? id = some name) :
    ∃ entry ∈ entries, entry.id = id ∧ ∃ c, client entry = .ok c ∧ a.clients[name]? = some c := by
  have hknown : id ∈ entries.map (·.id) := by
    by_contra hnot
    rw [h.agree, h.unknown id hnot] at hname
    cases hname
  obtain ⟨entry, hentry, rfl⟩ := List.mem_map.mp hknown
  refine ⟨entry, hentry, rfl, ?_⟩
  cases hclient : client entry with
  | error e =>
      rw [h.agree, h.missing entry hentry e hclient] at hname
      cases hname
  | ok c =>
      obtain ⟨place, hplace, hc⟩ := h.built entry hentry c hclient
      obtain rfl := Option.some.inj (hname.symm.trans hplace)
      exact ⟨c, rfl, hc⟩

end Assembly

/-! ## Clients of the vaults -/

theorem exists_remote_of_clientOf {config : Configuration} {files : Files} {entry : VaultEntry}
    {c : Client} (hclient : clientOf config files entry = .ok c) : ∃ server,
      c = .remote (.start entry.id entry.mounts (millis config.cacheTtl)
        (some (millis config.cleanupInterval))) server := by
  unfold clientOf at hclient
  cases hserver : Remote.ofEntry entry files (millis config.requestTimeout) with
  | error e =>
      rw [hserver] at hclient
      cases hclient
  | ok server =>
      rw [hserver] at hclient
      cases hclient
      exact ⟨server, rfl⟩

theorem catalog_eq_none_iff (config : Configuration) (files : Files) :
    (ofConfiguration config files).1.catalog = none ↔ config.vaults = [] := by
  by_cases hempty : config.vaults = []
  · simp [ofConfiguration, hempty]
  · simp [catalog_ofConfiguration hempty, hempty]

theorem vaults_ne_nil_of_catalog {config : Configuration} {files : Files} {catalog : Catalog}
    (hcatalog : (ofConfiguration config files).1.catalog = some catalog) : config.vaults ≠ [] := by
  intro hempty
  rw [(catalog_eq_none_iff config files).mpr hempty] at hcatalog
  cases hcatalog

section Views

variable {config : Configuration} {files : Files} {registry : Registry} {clients : List Client}
  (hdistinct : config.vaultIds.Nodup) (h : ofConfiguration config files = (registry, clients))

include hdistinct h

theorem reflects_of_ofConfiguration : ∃ names displayNames,
    (Assembly.mk clients registry.vaults names displayNames).Reflects (clientOf config files)
        config.vaults ∧
      ∀ catalog, registry.catalog = some catalog →
        catalog = Catalog.ofClients config.vaultIds names := by
  have hreflects := Assembly.reflects_ofConfiguration hdistinct files
  have hnames : ∀ catalog, (ofConfiguration config files).1.catalog = some catalog →
      catalog = Catalog.ofClients config.vaultIds (Assembly.ofConfiguration config files).names := by
    intro catalog hcatalog
    rw [catalog_ofConfiguration (vaults_ne_nil_of_catalog hcatalog)] at hcatalog
    exact (Option.some.inj hcatalog).symm
  obtain ⟨rfl, rfl⟩ := Prod.mk.inj h
  exact ⟨_, _, hreflects, hnames⟩

theorem exists_entry_of_vault? {id : String} {name : Nat} (hname : registry.vault? id = some name) :
    ∃ entry ∈ config.vaults, entry.id = id ∧
      ∃ c, clientOf config files entry = .ok c ∧ clients[name]? = some c := by
  obtain ⟨_, _, hreflects, -⟩ := reflects_of_ofConfiguration hdistinct h
  exact hreflects.exists_entry hname

theorem exists_vault?_iff (id : String) : (∃ name, registry.vault? id = some name) ↔
    ∃ entry ∈ config.vaults, entry.id = id ∧ ∃ c, clientOf config files entry = .ok c := by
  obtain ⟨_, _, hreflects, -⟩ := reflects_of_ofConfiguration hdistinct h
  constructor
  · rintro ⟨name, hname⟩
    obtain ⟨entry, hentry, hid, c, hclient, -⟩ := hreflects.exists_entry hname
    exact ⟨entry, hentry, hid, c, hclient⟩
  · rintro ⟨entry, hentry, rfl, c, hclient⟩
    obtain ⟨name, hname, -⟩ := hreflects.built entry hentry c hclient
    exact ⟨name, hname⟩

theorem client?_eq_vault? {catalog : Catalog} (hcatalog : registry.catalog = some catalog)
    (id : String) : catalog.client? id = registry.vault? id := by
  obtain ⟨_, _, hreflects, hnames⟩ := reflects_of_ofConfiguration hdistinct h
  rw [hnames catalog hcatalog]
  exact (hreflects.agree id).symm

theorem exists_remote_of_vault? {id : String} {name : Nat}
    (hname : registry.vault? id = some name) : ∃ v server,
      clients[name]? = some (.remote v server) ∧ v.vaultId = id ∧ v.isShutDown = false := by
  obtain ⟨entry, -, hid, c, hclient, hplace⟩ := exists_entry_of_vault? hdistinct h hname
  obtain ⟨server, rfl⟩ := exists_remote_of_clientOf hclient
  exact ⟨_, server, hplace, hid, rfl⟩

theorem vault?_inj {id other : String} {name : Nat} (hname : registry.vault? id = some name)
    (hother : registry.vault? other = some name) : id = other := by
  obtain ⟨v, server, hplace, hid, -⟩ := exists_remote_of_vault? hdistinct h hname
  obtain ⟨w, host, hsame, hotherId, -⟩ := exists_remote_of_vault? hdistinct h hother
  -- Clients of two entries would differ in the id that they were started with.
  rw [hplace] at hsame
  cases hsame
  exact hid.symm.trans hotherId

theorem keepsListings_start (httl : 0 < config.cacheTtl) (network : Http.Network)
    (wallMoves : Bool) : (Fleet.start clients network wallMoves).KeepsListings := by
  obtain ⟨_, _, hreflects, -⟩ := reflects_of_ofConfiguration hdistinct h
  refine ⟨fun c hc => ?_, trivial⟩
  obtain ⟨entry, -, hclient⟩ := hreflects.clients c hc
  obtain ⟨server, rfl⟩ := exists_remote_of_clientOf hclient
  exact Nat.mul_pos httl (by decide)

theorem reportsMissing_of_clientOf {catalog : Catalog} (hcatalog : registry.catalog = some catalog)
    {entry : VaultEntry} (hentry : entry ∈ config.vaults) {e : CatalogError}
    (hfailed : clientOf config files entry = .error e)
    (haddressable : isAddressable entry.id = true) : catalog.ReportsMissing entry.id := by
  obtain ⟨_, _, hreflects, hnames⟩ := reflects_of_ofConfiguration hdistinct h
  have hmem : entry.id ∈ catalog.vaultIds := by
    have hids : registry.vaultIds = catalog.vaultIds := by rw [vaultIds, hcatalog]
    have hregistered : entry.id ∈ (ofConfiguration config files).1.vaultIds :=
      mem_vaultIds_iff.mpr ⟨List.mem_map_of_mem hentry, haddressable⟩
    rwa [h, hids] at hregistered
  have hnone : catalog.client? entry.id = none := by
    rw [hnames catalog hcatalog, Catalog.client?, Catalog.ofClients,
      hreflects.missing entry hentry e hfailed, Option.join_some]
  exact Catalog.reportsMissing hmem haddressable hnone

theorem cacheSize_eq_sum {catalog : Catalog} (hcatalog : registry.catalog = some catalog)
    (fleet : Fleet) : catalog.cacheSize fleet =
      ((config.vaultIds.filterMap registry.vault?).map fleet.cacheSize).sum := by
  have hclients : catalog.client? = registry.vault? :=
    funext (client?_eq_vault? hdistinct h hcatalog)
  have hperm := @Catalog.distinctClients_perm catalog config.vaultIds hdistinct
    (fun id name hname => by
      rw [hclients] at hname
      obtain ⟨entry, hentry, rfl, -⟩ := exists_entry_of_vault? hdistinct h hname
      exact List.mem_map_of_mem hentry)
    (fun id other name hname hother => by
      rw [hclients] at hname hother
      exact vault?_inj hdistinct h hname hother)
  rw [Catalog.cacheSize_eq_sum, (hperm.map fleet.cacheSize).sum_nat, hclients]

/-- Whatever has happened before, a shutdown reaches the client of every vault, and for good. -/
theorem isShutDown_after_shutdown {catalog : Catalog} (hcatalog : registry.catalog = some catalog)
    (network : Http.Network) (wallMoves : Bool) (steps more : List CatalogStep) {id : String}
    {name : Nat} (hname : registry.vault? id = some name) : ∃ v server,
      (catalog.after (catalog.shutdown
          (catalog.after (.start clients network wallMoves) steps)) more).clients[name]? =
        some (.remote v server) ∧ v.vaultId = id ∧ v.isShutDown = true := by
  obtain ⟨v, server, hplace, hid, -⟩ := exists_remote_of_vault? hdistinct h hname
  have hstart : ∃ w, (Fleet.start clients network wallMoves).clients[name]? =
      some (.remote w server) ∧ v.Continues w := ⟨v, hplace, .refl v⟩
  obtain ⟨w, hreached, hcontinues⟩ :=
    (Fleet.isInvariant_remote name v server).after catalog hstart steps
  have hmem : name ∈ catalog.distinctClients :=
    Catalog.mem_distinctClients.mpr ⟨id, (client?_eq_vault? hdistinct h hcatalog id).trans hname⟩
  have hstopped : (catalog.shutdown
      (catalog.after (.start clients network wallMoves) steps)).clients[name]? =
        some (.remote w.shutdown server) := by
    rw [(catalog.isBroadcast_shutdown _).clients,
      if_pos (Catalog.mem_distinctClients_iff.mp hmem), hreached]
    rfl
  -- From here on it is the stopped client that goes on.
  obtain ⟨x, hlast, hstays⟩ := (Fleet.isInvariant_remote name w.shutdown server).after catalog
    ⟨w.shutdown, hstopped, .refl w.shutdown⟩ more
  exact ⟨x, server, hlast, hstays.vaultId_eq.trans (hcontinues.vaultId_eq.trans hid),
    hstays.stays_shutDown rfl⟩

end Views

/-! ## Agreement -/

/-- An id that no catalog can read tells its source from the one of a catalog without vaults. -/
theorem source_ne_disabled (c : Catalog) : c.source ≠ .disabled := by
  intro hsame
  have hparse : parse c.vaultIds "|" = .error (.invalidCertificateId "|") := rfl
  have hanswer : c.details "|" = .answer (.error .notConfigured) :=
    congrArg (fun source => source.details "|") hsame
  have hinvalid := Catalog.details_of_resolve_error (Catalog.resolve_of_parse_error hparse)
    (.start [] (.ofRoutes true []) false)
  rw [hanswer] at hinvalid
  cases hinvalid

theorem source_eq_disabled_iff (registry : Registry) :
    registry.source = .disabled ↔ registry.catalog = none := by
  unfold source
  cases registry.catalog with
  | none => simp
  | some catalog => simpa using source_ne_disabled catalog

def halfConfiguration : Configuration :=
  plainConfiguration [addressedEntry "main" "http://a", addressedEntry "gone" "h"]

def halfRegistry : Registry × List Client :=
  ofConfiguration halfConfiguration (.ofList [])

end CertCatalog.Registry
