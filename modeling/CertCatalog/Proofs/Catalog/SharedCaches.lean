import CertCatalog.Proofs.Catalog.Runs
import CertCatalog.Proofs.Fleet.CachedListings
import CertCatalog.Proofs.Fleet.Continuity

/-!
# Caches that a catalog shares

A catalog has no cache of its own.  A listing that a client has cached is shown by the catalog, and
a listing that the catalog has asked for is cached by the client.
-/

namespace CertCatalog

abbrev Fleet.KeepsListings (fleet : Fleet) : Prop :=
  fleet.Holds (Client.IsVault fun _ v => 0 < v.cache.ttl) fun _ => True

theorem Fleet.isInvariant_keepsListings : IsInvariant Fleet.KeepsListings :=
  (Client.isKeptByVaults_isVault fun _ =>
    { keep := fun _ _ _ h => h, invalidate := fun _ h => h, shutdown := fun _ h => h,
      sweep := fun _ _ h => h }).isInvariant.fleet

namespace Fleet.KeepsListings

variable {fleet : Fleet}

theorem listDelay_eq (h : fleet.KeepsListings) (name : Nat) : fleet.listDelay name = 0 := by
  cases hclient : fleet.clients[name]? with
  | none =>
      rw [listDelay, hclient]
      rfl
  | some c =>
      obtain ⟨v, hvault, -⟩ := (h.client hclient).exists_vault?
      exact listDelay_of_vault? hclient hvault

theorem cached?_of_list (h : fleet.KeepsListings) {name : Nat} {certificates : List Certificate}
    (hok : (Fleet.list name fleet).1 = .ok certificates) :
    (Fleet.list name fleet).2.cached? name = some certificates := by
  cases hclient : fleet.clients[name]? with
  | none =>
      have hmissing : (Fleet.list name fleet).1 = .error .notConfigured := by
        simp only [Fleet.list, listNow, call_of_missing hclient]
      rw [hmissing] at hok
      cases hok
  | some c =>
      obtain ⟨v, hvault, httl⟩ := (h.client hclient).exists_vault?
      exact Fleet.cached?_of_list hclient hvault httl hok

end Fleet.KeepsListings

namespace Catalog

variable {c : Catalog} {vaultId : String} {name : Nat} {fleet : Fleet}
  {certificates : List Certificate}

theorem ask_of_client? (hclient : c.client? vaultId = some name) (fleet : Fleet) :
    c.ask vaultId fleet = Fleet.list name fleet := by
  simp only [ask, hclient]

/-! ## One vault after another -/

theorem keeps_cached_ask (c : Catalog) (name : Nat) (certificates : List Certificate)
    (vaultId : String) : Action.Keeps
      (fun fleet => fleet.KeepsListings ∧ fleet.cached? name = some certificates)
      (c.ask vaultId) := by
  rintro fleet ⟨h, hcached⟩
  refine ⟨Fleet.isInvariant_keepsListings.ask c vaultId fleet h, ?_⟩
  unfold ask
  cases c.client? vaultId with
  | none => exact hcached
  | some called => exact Fleet.cached?_list hcached (h.listDelay_eq called)

theorem keeps_cached_probing (c : Catalog) (deadline name : Nat) (certificates : List Certificate)
    (vaultId : String) : Action.Keeps
      (fun fleet => fleet.KeepsListings ∧ fleet.cached? name = some certificates)
      (c.probing deadline vaultId) := by
  rintro fleet ⟨h, hcached⟩
  refine ⟨Fleet.isInvariant_keepsListings.probe c deadline vaultId h, ?_⟩
  simp only [probing]
  cases hclient : c.client? vaultId with
  | none => simpa only [probe_of_missing hclient] using hcached
  | some called =>
      have hlisted := Fleet.cached?_list hcached (h.listDelay_eq called)
      rw [Fleet.list_of_listDelay (h.listDelay_eq called)] at hlisted
      rw [probe_of_client hclient]
      rcases Fleet.listWithin_cases deadline called fleet with hcase | hcase <;> rw [hcase]
      · exact hlisted
      · -- A listing that is given up leaves all clients as they were.
        rw [Fleet.cached?, Fleet.clock_listNow]
        exact hcached

theorem probe_of_cached (hclient : c.client? vaultId = some name)
    (hcached : fleet.cached? name = some certificates) (deadline : Nat) :
    (c.probe deadline vaultId fleet).1 = listingOf deadline vaultId 0 (some (.ok certificates)) := by
  obtain ⟨hlisted, htime⟩ := Fleet.listWithin_of_cached hcached deadline
  rw [probe_of_client hclient, hlisted, htime]

def ShowsCached (vaultId : String) (name : Nat) (entry : VaultListing) (fleet : Fleet) : Prop :=
  ∃ certificates, entry.certificates = certificates.map (prefixed vaultId) ∧
    fleet.cached? name = some certificates

theorem keeps_showsCached_probing (c : Catalog) (deadline : Nat) (vaultId : String) (name : Nat)
    (entry : VaultListing) (other : String) : Action.Keeps
      (fun fleet => fleet.KeepsListings ∧ ShowsCached vaultId name entry fleet)
      (c.probing deadline other) := by
  rintro fleet ⟨h, certificates, hshown, hcached⟩
  obtain ⟨hnext, hstill⟩ :=
    keeps_cached_probing c deadline name certificates other fleet ⟨h, hcached⟩
  exact ⟨hnext, certificates, hshown, hstill⟩

theorem showsCached_probe (hclient : c.client? vaultId = some name) (h : fleet.KeepsListings)
    {deadline : Nat} (hok : (c.probe deadline vaultId fleet).1.error = none) :
    ShowsCached vaultId name (c.probe deadline vaultId fleet).1
      (c.probe deadline vaultId fleet).2 := by
  have hnow := Fleet.list_of_listDelay (h.listDelay_eq name)
  rw [probe_of_client hclient] at hok ⊢
  rcases Fleet.listWithin_cases deadline name fleet with hcase | hcase <;> rw [hcase] at hok ⊢
  · cases hanswer : (Fleet.listNow name fleet).1 with
    | error e =>
        rw [hanswer] at hok
        cases hok
    | ok certificates =>
        refine ⟨certificates, rfl, ?_⟩
        rw [← hnow] at hanswer ⊢
        exact h.cached?_of_list hanswer
  · cases hok

/-! ## One cache -/

/-- A listing at once takes no time, so that nothing expires. -/
theorem listByVault_eq_probeAll (h : fleet.KeepsListings) (c : Catalog) (deadline : Nat) :
    c.listByVault deadline fleet = c.probeAll deadline c.vaultIds fleet := by
  have hwaiting : c.waitingTime deadline fleet = 0 := by
    simp only [waitingTime, h.listDelay_eq, Nat.zero_min, Nat.max_zero, List.foldl_fixed]
  simp only [listByVault, hwaiting, Fleet.advance_zero]

theorem mem_zip_of_mem_listByVault {deadline : Nat} {entry : VaultListing}
    (hentry : entry ∈ (c.listByVault deadline fleet).1) :
    (entry.vaultId, .ok entry) ∈
      c.vaultIds.zip (Action.attemptAll (c.probing deadline) c.vaultIds fleet).1 := by
  have hzip : ((c.listByVault deadline fleet).1.map (·.vaultId)).zip
      ((c.listByVault deadline fleet).1.map .ok) =
        (c.listByVault deadline fleet).1.map fun e => (e.vaultId, (.ok e : Outcome VaultListing)) :=
    List.zip_map' ..
  rw [vaultIds_listByVault] at hzip
  rw [attemptAll_probing]
  exact hzip ▸ List.mem_map_of_mem hentry

section Shared

variable (hclient : c.client? vaultId = some name) (h : fleet.KeepsListings)

include hclient h

theorem mem_answers_of_cached (hmem : vaultId ∈ c.vaultIds)
    (hcached : fleet.cached? name = some certificates) :
    (vaultId, .ok certificates) ∈ c.answers fleet := by
  refine Action.mem_zip_attemptAll (keeps_cached_ask c name certificates) ?_ hmem ⟨h, hcached⟩
  intro s hs
  rw [ask_of_client? hclient, Fleet.list_of_cached hs.2]

theorem mem_listByVault_of_cached (hmem : vaultId ∈ c.vaultIds)
    (hcached : fleet.cached? name = some certificates) (deadline : Nat) :
    listingOf deadline vaultId 0 (some (.ok certificates)) ∈ (c.listByVault deadline fleet).1 := by
  have hentry := Action.mem_zip_attemptAll
    (keeps_cached_probing c deadline name certificates)
    (fun s hs => congrArg Except.ok (probe_of_cached hclient hs.2 deadline)) hmem ⟨h, hcached⟩
  rw [attemptAll_probing] at hentry
  obtain ⟨entry, hlisted, hentry⟩ := List.mem_map.mp (List.of_mem_zip hentry).2
  cases hentry
  exact hlisted

theorem cached?_of_mem_answers (hanswer : (vaultId, .ok certificates) ∈ c.answers fleet) :
    (c.list fleet).2.cached? name = some certificates := by
  have hne : c.vaultIds ≠ [] := by
    rintro hnil
    rw [answers, hnil] at hanswer
    cases hanswer
  rw [list_eq_joinListings hne]
  refine Action.of_mem_zip_attemptAll (Fleet.isInvariant_keepsListings.ask c)
    (keeps_cached_ask c name certificates) (fun s hs hok => ?_) h hanswer
  rw [ask_of_client? hclient] at hok ⊢
  exact Fleet.KeepsListings.cached?_of_list hs hok

theorem showsCached_of_mem_listByVault {deadline : Nat} {entry : VaultListing}
    (hentry : entry ∈ (c.listByVault deadline fleet).1) (hvault : entry.vaultId = vaultId)
    (hok : entry.error = none) :
    ShowsCached vaultId name entry (c.listByVault deadline fleet).2 := by
  have hkeeps : ∀ other, Action.Keeps Fleet.KeepsListings (c.probing deadline other) :=
    fun other _ hs => Fleet.isInvariant_keepsListings.probe c deadline other hs
  have hturn : ∀ s : Fleet, s.KeepsListings → (c.probing deadline vaultId s).1 = .ok entry →
      ShowsCached vaultId name entry (c.probing deadline vaultId s).2 := by
    intro s hs hprobed
    cases hprobed
    exact showsCached_probe hclient hs hok
  have hmem := mem_zip_of_mem_listByVault hentry
  rw [hvault] at hmem
  have hshown := Action.of_mem_zip_attemptAll hkeeps
    (keeps_showsCached_probing c deadline vaultId name entry) hturn h hmem
  rw [attemptAll_probing, ← listByVault_eq_probeAll h] at hshown
  exact hshown

end Shared

/--
The client of a vault and the catalog see one cache.  What the client has listed is what the catalog
shows of the vault, and what the catalog has been told is what the client lists; either way the
server is not asked again.
-/
structure SharesCache (c : Catalog) (vaultId : String) (name : Nat) (fleet : Fleet) : Prop where
  direct : ∀ certificates later, Fleet.list name fleet = (.ok certificates, later) →
    0 < later.cacheSize name ∧
      c.listVault vaultId later =
        (.ok (certificates.map (prefixed vaultId)), later.record name .list) ∧
      (vaultId ∈ c.vaultIds → (vaultId, .ok certificates) ∈ c.answers later ∧
        ∀ deadline, listingOf deadline vaultId 0 (some (.ok certificates)) ∈
          (c.listByVault deadline later).1)
  through : ∀ certificates, (vaultId, .ok certificates) ∈ c.answers fleet →
    0 < (c.list fleet).2.cacheSize name ∧
      Fleet.list name (c.list fleet).2 = (.ok certificates, (c.list fleet).2.record name .list)
  throughAll : ∀ deadline, ∀ entry ∈ (c.listByVault deadline fleet).1, entry.vaultId = vaultId →
    entry.error = none → ∃ certificates, entry.certificates = certificates.map (prefixed vaultId) ∧
      0 < (c.listByVault deadline fleet).2.cacheSize name ∧
      Fleet.list name (c.listByVault deadline fleet).2 =
        (.ok certificates, (c.listByVault deadline fleet).2.record name .list)

theorem sharesCache (hclient : c.client? vaultId = some name) (h : fleet.KeepsListings) :
    c.SharesCache vaultId name fleet where
  direct certificates later hlist := by
    have hcached := h.cached?_of_list (congrArg Prod.fst hlist)
    have hlater := (Fleet.isInvariant_keepsListings.source name).list fleet h
    rw [show (Fleet.source name).list fleet = (.ok certificates, later) from hlist] at hlater
    rw [hlist] at hcached
    refine ⟨Fleet.cacheSize_pos hcached, ?_, fun hmem =>
      ⟨mem_answers_of_cached hclient hlater hmem hcached,
        mem_listByVault_of_cached hclient hlater hmem hcached⟩⟩
    rw [listVault_apply, ask_of_client? hclient, Fleet.list_of_cached hcached]
    rfl
  through certificates hanswer := by
    have hcached := cached?_of_mem_answers hclient h hanswer
    exact ⟨Fleet.cacheSize_pos hcached, Fleet.list_of_cached hcached⟩
  throughAll deadline entry hentry hvault hok := by
    obtain ⟨certificates, hshown, hcached⟩ :=
      showsCached_of_mem_listByVault hclient h hentry hvault hok
    exact ⟨certificates, hshown, Fleet.cacheSize_pos hcached, Fleet.list_of_cached hcached⟩

end Catalog
end CertCatalog
