import CertCatalog.Proofs.Catalog.Runs
import CertCatalog.Proofs.Catalog.SteadyListing
import CertCatalog.Proofs.Config.Normal
import CertCatalog.Proofs.Vault.DistinctIds
import CertCatalog.Proofs.Vault.Revocation

/-!
# Distinct ids across vaults

Vault ids are distinct and free of the separator, so ids of different vaults differ.  What is left is
each vault for itself.  Normalization does not look at the mounts of an entry side by side: it lets
through entries whose mounts share ids.
-/

namespace CertCatalog

open CertCatalog.CertificateId CertCatalog.VaultEntry
open CertCatalog.VaultSession (sampleEntry)

/-! ## One client -/

namespace Client

/-- The client of one vault, whose mounts and cache are fit for distinct ids, as is its server. -/
def HasDistinctIds (quiet : Http.Network → Prop) : Client → Prop
  | .disabled | .scripted _ => False
  | .inMemory v _ => v.HasDistinctIds
  | .remote v r => v.HasDistinctIds ∧ r.server.NeverRepeats quiet

variable {quiet : Http.Network → Prop}

theorem isKeptByVaults_hasDistinctIds (quiet : Http.Network → Prop) :
    IsKeptByVaults (HasDistinctIds quiet) quiet where
  inMemory _ _ _ now := by
    simpa only [HasDistinctIds, and_true] using
      VaultClient.HasDistinctIds.source MemoryBackend.server_neverRepeats now
  backend _ _ _ h := h
  remote _ _ h now := by
    simpa only [HasDistinctIds, h.2, and_true] using VaultClient.HasDistinctIds.source h.2 now
  network _ _ h := h.2.toKeeps
  sweep c _ h := by
    cases c with
    | disabled => exact h.elim
    | scripted script => exact h.elim
    | inMemory v b => exact VaultClient.HasDistinctIds.sweep h _
    | remote v r => exact ⟨h.1.sweep _, h.2⟩

theorem isInvariant_hasDistinctIds (quiet : Http.Network → Prop) :
    IsInvariant (HasDistinctIds quiet) quiet :=
  (isKeptByVaults_hasDistinctIds quiet).isInvariant

theorem HasDistinctIds.run_list {c : Client} (h : c.HasDistinctIds quiet) {net : Http.Network}
    (hnet : quiet net) {now : Nat} {certificates : List Certificate}
    (hok : (run now (fun source => source.list) (c, net)).1 = .ok certificates) :
    (certificates.map (·.id)).Nodup := by
  cases c with
  | disabled => exact h.elim
  | scripted script => exact h.elim
  | inMemory v b =>
      exact (VaultClient.HasDistinctIds.list MemoryBackend.server_neverRepeats h trivial now).1
        certificates hok
  | remote v r =>
      exact (VaultClient.HasDistinctIds.list h.2 h.1 hnet now).1 certificates hok

end Client

/-! ## One moment -/

namespace Fleet

abbrev HasDistinctIds (quiet : Http.Network → Prop) (fleet : Fleet) : Prop :=
  fleet.Holds (Client.HasDistinctIds quiet) quiet

variable {quiet : Http.Network → Prop}

theorem nodup_ids_listNow {fleet : Fleet} (h : fleet.HasDistinctIds quiet) {name : Nat}
    {certificates : List Certificate} (hok : (Fleet.listNow name fleet).1 = .ok certificates) :
    (certificates.map (·.id)).Nodup := by
  cases hclient : fleet.clients[name]? with
  | none =>
      rw [Fleet.listNow, call_of_missing hclient] at hok
      contradiction
  | some c =>
      rw [Fleet.listNow, call_of_client hclient] at hok
      exact (h.client hclient).run_list h.network hok

end Fleet

namespace Catalog

variable {quiet : Http.Network → Prop} {c : Catalog}

theorem nodup_ids_ask {fleet : Fleet} (h : fleet.HasDistinctIds quiet) {vaultId : String}
    {certificates : List Certificate} (hok : (c.ask vaultId fleet).1 = .ok certificates) :
    (certificates.map (·.id)).Nodup := by
  unfold ask at hok
  cases hclient : c.client? vaultId with
  | none =>
      rw [hclient] at hok
      contradiction
  | some name =>
      rw [hclient] at hok
      exact Fleet.nodup_ids_listNow h hok

theorem areIdsOf_probe {fleet : Fleet} (h : fleet.HasDistinctIds quiet) (deadline : Nat)
    (vaultId : String) :
    AreIdsOf vaultId ((c.probe deadline vaultId fleet).1.certificates.map (·.id)) := by
  have hempty : AreIdsOf vaultId [] := ⟨[], List.nodup_nil, rfl⟩
  cases hclient : c.client? vaultId with
  | none =>
      rw [probe_of_missing hclient]
      exact hempty
  | some name =>
      rw [probe_of_client hclient]
      rcases Fleet.listWithin_cases deadline name fleet with hcase | hcase <;> rw [hcase]
      · cases hanswer : (Fleet.listNow name fleet).1 with
        | error e => exact hempty
        | ok certificates =>
            refine ⟨certificates.map (·.id), Fleet.nodup_ids_listNow h hanswer, ?_⟩
            rw [listingOf, List.map_map, List.map_map]
            rfl
      · exact hempty

theorem nodup_ids_list (hvaults : c.vaultIds.Nodup)
    (haddressable : ∀ vaultId ∈ c.vaultIds, isAddressable vaultId = true) {fleet : Fleet}
    (h : fleet.HasDistinctIds quiet) {certificates : List Certificate}
    (hok : (c.list fleet).1 = .ok certificates) : (certificates.map (·.id)).Nodup := by
  by_cases hne : c.vaultIds = []
  · rw [list_apply, hne] at hok
    contradiction
  · obtain ⟨hanswers, -⟩ := Action.attemptAll_forall₂ (Fleet.HasDistinctIds quiet)
      (fun _ outcome => ∀ certificates, outcome = .ok certificates →
        (certificates.map (·.id)).Nodup) c.ask
      (fun vaultId _ s hs => ⟨fun _ hanswer => nodup_ids_ask hs hanswer,
        (Client.isInvariant_hasDistinctIds quiet).fleet.ask c vaultId s hs⟩) h
    have hids := c.vaultIds_answers fleet
    rw [eq_sort_of_list hne hok, ((Certificate.sort_perm _).map _).nodup_iff]
    refine nodup_ids_allShown (hids ▸ hvaults) (fun answer hanswer => ?_) fun answer hanswer => ?_
    · exact haddressable _ (hids ▸ List.mem_map_of_mem hanswer)
    · obtain ⟨vaultId, -, hdistinct⟩ := Action.exists_item_of_mem hanswers
        (List.of_mem_zip hanswer).2
      exact hdistinct

theorem nodup_ids_listByVault (hvaults : c.vaultIds.Nodup)
    (haddressable : ∀ vaultId ∈ c.vaultIds, isAddressable vaultId = true) {fleet : Fleet}
    (h : fleet.HasDistinctIds quiet) (deadline : Nat) :
    (((c.listByVault deadline fleet).1.flatMap (·.certificates)).map (·.id)).Nodup := by
  have hentries := listByVault_forall₂ (Fleet.HasDistinctIds quiet)
    (fun vaultId entry => AreIdsOf vaultId (entry.certificates.map (·.id)))
    (fun vaultId _ s hs => ⟨areIdsOf_probe hs deadline vaultId,
      (Client.isInvariant_hasDistinctIds quiet).fleet.probe c deadline vaultId hs⟩) h
  rw [List.map_flatMap, List.flatMap_def]
  exact nodup_flatten_of_areIdsOf hvaults haddressable (List.forall₂_map_right_iff.mpr hentries)

end Catalog

/-! ## All runs -/

/-- A client of a normal entry as it is at first, whose server lists no serial of a mount twice. -/
def Client.IsStartOf (entry : VaultEntry) (quiet : Http.Network → Prop) : Client → Prop
  | .disabled | .scripted _ => False
  | .inMemory v _ => ∃ ttl sweepEvery, v = .start entry.id entry.mounts ttl sweepEvery
  | .remote v r => (∃ ttl sweepEvery, v = .start entry.id entry.mounts ttl sweepEvery) ∧
      r.server.NeverRepeats quiet

theorem Client.IsStartOf.hasDistinctIds {entry : VaultEntry} {quiet : Http.Network → Prop}
    (hapart : MountsApart entry.mounts) {c : Client} (hstart : c.IsStartOf entry quiet) :
    c.HasDistinctIds quiet := by
  have hfirst := VaultClient.hasDistinctIds_start hapart entry.id
  cases c with
  | disabled => exact hstart.elim
  | scripted script => exact hstart.elim
  | inMemory v b =>
      obtain ⟨ttl, sweepEvery, rfl⟩ := hstart
      exact hfirst ttl sweepEvery
  | remote v r =>
      obtain ⟨⟨ttl, sweepEvery, rfl⟩, hserver⟩ := hstart
      exact ⟨hfirst ttl sweepEvery, hserver⟩

namespace Catalog

/--
Entries that normalization lets through give clients whose listings never hold an id twice, alone and
across vaults, in turn and at once, whatever has happened before, exactly if the mounts of each
enabled entry are apart.
-/
theorem distinct_ids_iff_mounts_apart {order : FaultOrder} {entries normals : List VaultEntry}
    (hnormals : normalizeAll order entries = .ok normals) :
    (∀ e ∈ entries, e.isEnabled = true → MountsApart e.normalMounts) ↔
      ∀ (quiet : Http.Network → Prop) (fleet : Fleet), quiet fleet.network →
        (∀ c ∈ fleet.clients, ∃ entry ∈ normals, c.IsStartOf entry quiet) →
        ∀ (wanted : List String) (clients : Table (Option Nat)) (steps : List CatalogStep),
          (∀ name certificates,
            (Fleet.list name ((ofClients wanted clients).after fleet steps)).1 =
                .ok certificates → (certificates.map (·.id)).Nodup) ∧
          (∀ certificates,
            ((ofClients wanted clients).list ((ofClients wanted clients).after fleet steps)).1 =
                .ok certificates → (certificates.map (·.id)).Nodup) ∧
          ∀ deadline, ((((ofClients wanted clients).listByVault deadline
            ((ofClients wanted clients).after fleet steps)).1.flatMap
              (·.certificates)).map (·.id)).Nodup := by
  have hcompleted := normals_eq_of_normalizeAll hnormals
  constructor
  · intro hapart quiet fleet hquiet hstart wanted clients steps
    have hfirst : fleet.HasDistinctIds quiet := by
      refine ⟨fun c hc => ?_, hquiet⟩
      obtain ⟨entry, hentry, hstarted⟩ := hstart c hc
      rw [hcompleted] at hentry
      obtain ⟨e, he, rfl⟩ := List.mem_map.mp hentry
      obtain ⟨hmem, henabled⟩ := List.mem_filter.mp he
      exact hstarted.hasDistinctIds (hapart e hmem henabled)
    have hafter := (Client.isInvariant_hasDistinctIds quiet).fleet.after (ofClients wanted clients)
      hfirst steps
    have hvaults := nodup_vaultIds wanted clients
    have haddressable : ∀ vaultId ∈ (ofClients wanted clients).vaultIds,
        isAddressable vaultId = true := fun _ hmem => isAddressable_of_mem_vaultIds hmem
    exact ⟨fun name certificates hok => Fleet.nodup_ids_listNow hafter hok,
      fun certificates hok => nodup_ids_list hvaults haddressable hafter hok,
      fun deadline => nodup_ids_listByVault hvaults haddressable hafter deadline⟩
  · intro hdistinct e he henabled
    by_contra hnot
    obtain ⟨b, certificates, hlisting, hrepeated⟩ := MemoryBackend.exists_repeated_id hnot
    -- A client of this entry alone, before anything has happened.
    let v := VaultClient.start e.completed.id e.completed.mounts 0 none
    have hentry : e.completed ∈ normals := by
      rw [hcompleted]
      exact List.mem_map_of_mem (List.mem_filter.mpr ⟨he, henabled⟩)
    have hclients : ∀ c ∈ (Fleet.start [.inMemory v b] (.ofRoutes true []) false).clients,
        ∃ entry ∈ normals, c.IsStartOf entry fun _ => True := by
      intro c hc
      obtain rfl := List.mem_singleton.mp hc
      exact ⟨e.completed, hentry, 0, none, rfl⟩
    obtain ⟨hsingle, -, -⟩ := hdistinct (fun _ => True) _ trivial hclients [] .empty []
    have hlist : (VaultClient.list MemoryBackend.server 0 (v, b)).1 = b.listing v.mounts :=
      VaultClient.list_of_uncached rfl b
    exact hrepeated (hsingle 0 certificates (hlist.trans hlisting))

/-! ## A catalog of one vault -/

def singleCatalog : Catalog :=
  ofClients ["v"] (Table.ofList [("v", some 0)])

def singleClient (mounts : List String) : VaultClient :=
  .start "v" (sampleEntry mounts).completed.mounts 60000 none

def singleFleet (mounts : List String) (places : List (String × String)) : Fleet :=
  .start [.inMemory (singleClient mounts) (sampleServer places)] (.ofRoutes true []) false

theorem list_singleFleet {mounts : List String} {places : List (String × String)}
    {listed : List Certificate}
    (hlisting : (sampleServer places).listing (singleClient mounts).mounts = .ok listed) :
    (Fleet.list 0 (singleFleet mounts places)).1 = .ok listed ∧
      (singleCatalog.list (singleFleet mounts places)).1 =
        .ok (Certificate.sort (listed.map (prefixed "v"))) := by
  have hlist : (VaultClient.list MemoryBackend.server 0
      (singleClient mounts, sampleServer places)).1 = .ok listed :=
    (VaultClient.list_of_uncached rfl _).trans hlisting
  have hclient : (Fleet.list 0 (singleFleet mounts places)).1 = .ok listed := hlist
  have hvaults : singleCatalog.vaultIds = ["v"] := by decide
  have hask : (singleCatalog.ask "v" (singleFleet mounts places)).1 = .ok listed := hclient
  refine ⟨hclient, ?_⟩
  rw [list_eq_joinListings (by simp [hvaults]), answers, hvaults]
  simp only [Action.attemptAll, hask, List.zip_cons_cons, List.zip_nil_left, List.map_cons,
    List.map_nil, shown, Except.map]
  rw [joinListings_of_isOk (List.mem_singleton_self _) rfl]
  exact congrArg (fun certificates => Except.ok (Certificate.sort certificates))
    (List.append_nil _)

theorem distinct_ids_of_sample :
    (∃ certificates,
      (Fleet.list 0 (singleFleet ["pki", "ca"] [("ca", "01"), ("pki", "01")])).1 =
          .ok certificates ∧
        certificates.Perm [sampleCertificate "pki:01", sampleCertificate "ca:01"] ∧
        (certificates.map (·.id)).Nodup) ∧
      ∀ steps certificates,
        (singleCatalog.list (singleCatalog.after
            (singleFleet ["pki", "ca"] [("ca", "01"), ("pki", "01")]) steps)).1 =
          .ok certificates → (certificates.map (·.id)).Nodup := by
  have hnormals : normalizeAll .addressFirst [sampleEntry ["pki", "ca"]] =
      .ok [(sampleEntry ["pki", "ca"]).completed] := by decide +kernel
  have hapart : ∀ e ∈ [sampleEntry ["pki", "ca"]], e.isEnabled = true →
      MountsApart e.normalMounts := by decide +kernel
  have hclients : ∀ c ∈ (singleFleet ["pki", "ca"] [("ca", "01"), ("pki", "01")]).clients,
      ∃ entry ∈ [(sampleEntry ["pki", "ca"]).completed], c.IsStartOf entry fun _ => True := by
    intro c hc
    obtain rfl := List.mem_singleton.mp hc
    exact ⟨_, List.mem_singleton_self _, 60000, none, rfl⟩
  have hdistinct := (distinct_ids_iff_mounts_apart hnormals).mp hapart (fun _ => True) _ trivial
    hclients ["v"] (Table.ofList [("v", some 0)])
  obtain ⟨certificates, hlisting⟩ := MemoryBackend.exists_listing_sampleServer
    [("ca", "01"), ("pki", "01")] (singleClient ["pki", "ca"]).mounts
  have hentries : (singleClient ["pki", "ca"]).mounts.flatMap
      (sampleServer [("ca", "01"), ("pki", "01")]).entriesOf =
        [sampleCertificate "pki:01", sampleCertificate "ca:01"] := by
    rw [MemoryBackend.entriesOf_sampleServer]
    decide
  have hlist := (list_singleFleet hlisting).1
  refine ⟨⟨certificates, hlist, ?_, (hdistinct []).1 0 certificates hlist⟩,
    fun steps => (hdistinct steps).2.1⟩
  exact hentries ▸ MemoryBackend.perm_of_listing hlisting

theorem eq_pair_of_perm {certificates : List Certificate} {c : Certificate}
    (hperm : certificates.Perm [c, c]) : certificates = [c, c] :=
  List.perm_replicate.mp (show certificates.Perm (List.replicate 2 c) from hperm)

/-- Records that share an id are shown as one and the same certificate, twice. -/
theorem list_of_shared_id {mounts : List String} {places : List (String × String)} {id : String}
    (hentries : (singleClient mounts).mounts.flatMap (sampleServer places).entriesOf =
      [sampleCertificate id, sampleCertificate id]) :
    (Fleet.list 0 (singleFleet mounts places)).1 =
        .ok [sampleCertificate id, sampleCertificate id] ∧
      (singleCatalog.list (singleFleet mounts places)).1 =
        .ok [sampleCertificate (compose "v" id), sampleCertificate (compose "v" id)] := by
  obtain ⟨certificates, hlisting⟩ :=
    MemoryBackend.exists_listing_sampleServer places (singleClient mounts).mounts
  obtain ⟨hclient, hcatalog⟩ := list_singleFleet hlisting
  obtain rfl := eq_pair_of_perm (hentries ▸ MemoryBackend.perm_of_listing hlisting)
  exact ⟨hclient, hcatalog.trans (congrArg Except.ok (eq_pair_of_perm (Certificate.sort_perm _)))⟩

/-- A mount that is listed twice shows its record twice; mounts that overlap show two records. -/
theorem repeated_ids_of_normal_mounts :
    normalizeAll .addressFirst [sampleEntry ["pki", "pki"]] =
        .ok [(sampleEntry ["pki", "pki"]).completed] ∧
      (singleCatalog.list (singleFleet ["pki", "pki"] [("pki", "01")])).1 =
        .ok [sampleCertificate "v|pki:01", sampleCertificate "v|pki:01"] ∧
      normalizeAll .addressFirst [sampleEntry ["a", "a:b"]] =
        .ok [(sampleEntry ["a", "a:b"]).completed] ∧
      (Fleet.list 0 (singleFleet ["a", "a:b"] [("a", "b:01"), ("a:b", "01")])).1 =
        .ok [sampleCertificate "a:b:01", sampleCertificate "a:b:01"] := by
  have htwice : (singleClient ["pki", "pki"]).mounts.flatMap
      (sampleServer [("pki", "01")]).entriesOf =
        [sampleCertificate "pki:01", sampleCertificate "pki:01"] := by
    rw [MemoryBackend.entriesOf_sampleServer]
    decide
  have hoverlap : (singleClient ["a", "a:b"]).mounts.flatMap
      (sampleServer [("a", "b:01"), ("a:b", "01")]).entriesOf =
        [sampleCertificate "a:b:01", sampleCertificate "a:b:01"] := by
    rw [MemoryBackend.entriesOf_sampleServer]
    decide
  exact ⟨by decide +kernel, (list_of_shared_id htwice).2, by decide +kernel,
    (list_of_shared_id hoverlap).1⟩

end Catalog
end CertCatalog
