import CertCatalog.Proofs.Catalog.Enumeration
import CertCatalog.Proofs.Catalog.Runs
import CertCatalog.Proofs.Fleet.Calls
import CertCatalog.Proofs.Fleet.Continuity
import Mathlib.Algebra.BigOperators.Group.Finset.Basic
import Mathlib.Algebra.GroupWithZero.Nat
import Mathlib.Data.List.Nodup

/-!
# What reaches all clients

An invalidation or a shutdown of a catalog calls each of its clients once, however many vaults a
client serves and whether they are enumerated, and no other client of the fleet.  The order in which
the table holds its keys decides on nothing but the order of these calls.
-/

namespace CertCatalog

/-! ## Named clients -/

namespace Fleet

theorem clients_modify (fleet : Fleet) (name other : Nat) (change : Client → Client) :
    (fleet.modify name change).clients[other]? =
      if other = name then fleet.clients[other]?.map change else fleet.clients[other]? := by
  unfold modify
  by_cases hname : other = name
  · subst hname
    rw [if_pos rfl]
    cases hclient : fleet.clients[other]? with
    | none => exact hclient
    | some c => exact clients_called_self hclient .shutdown (change c)
  · rw [if_neg hname]
    cases fleet.clients[name]? with
    | none => rfl
    | some c => exact clients_called_of_ne fleet hname .shutdown (change c)

def vault? (fleet : Fleet) (name : Nat) : Option VaultClient :=
  fleet.clients[name]?.bind Client.vault?

theorem isInvariant_vault? (name : Nat) :
    IsInvariant fun fleet => ∃ v, fleet.vault? name = some v := by
  have hlasts : VaultClient.Lasts fun _ => True :=
    { keep := fun _ _ _ h => h, invalidate := fun _ h => h, shutdown := fun _ h => h,
      sweep := fun _ _ h => h }
  have hkept := Client.isKeptByVaults_isVault fun _ => hlasts
  refine (hkept.isInvariant.place name).congr fun fleet => ?_
  simp only [vault?, Option.bind_eq_some_iff]
  constructor
  · rintro ⟨client, hclient, hvault⟩
    obtain ⟨v, hv, -⟩ := hvault.exists_vault?
    exact ⟨v, client, hclient, hv⟩
  · rintro ⟨v, client, hclient, hv⟩
    refine ⟨client, hclient, ?_⟩
    cases client with
    | disabled | scripted _ => cases hv
    | inMemory _ _ | remote _ _ => trivial

/-- A call that is logged, changes the client and has no answer. -/
def reach (step : ClientStep) (change : Client → Client) (fleet : Fleet) (name : Nat) : Fleet :=
  (fleet.record name step).modify name change

theorem clients_foldl_reach (step : ClientStep) (change : Client → Client) {names : List Nat}
    (hnodup : names.Nodup) (fleet : Fleet) (name : Nat) :
    (names.foldl (reach step change) fleet).clients[name]? =
      if name ∈ names then fleet.clients[name]?.map change else fleet.clients[name]? := by
  induction names generalizing fleet with
  | nil => simp
  | cons first rest ih =>
      obtain ⟨hfirst, hrest⟩ := List.nodup_cons.mp hnodup
      rw [List.foldl_cons, ih hrest, reach, clients_modify, clients_record]
      -- The first name is not among the rest, so its client is not changed once more.
      by_cases hname : name = first
      · subst hname
        simp [hfirst]
      · simp [hname]

theorem exists_clients_modify (fleet : Fleet) (name : Nat) (change : Client → Client) :
    ∃ clients, fleet.modify name change = { fleet with clients := clients } := by
  unfold modify
  cases fleet.clients[name]? with
  | none => exact ⟨fleet.clients, rfl⟩
  | some c => exact ⟨_, rfl⟩

theorem exists_clients_foldl_reach (step : ClientStep) (change : Client → Client)
    (names : List Nat) (fleet : Fleet) :
    ∃ clients, names.foldl (reach step change) fleet =
      { fleet with clients := clients, log := fleet.log ++ names.map (·, step) } := by
  induction names generalizing fleet with
  | nil => exact ⟨fleet.clients, by simp⟩
  | cons name rest ih =>
      obtain ⟨changed, hfirst⟩ := exists_clients_modify (fleet.record name step) name change
      obtain ⟨clients, hrest⟩ := ih (reach step change fleet name)
      refine ⟨clients, ?_⟩
      rw [List.foldl_cons, hrest, reach, hfirst]
      simp [record]

/--
Each of the clients is called once with the step, in some order, and changed once.  No other call is
made, and nothing else changes.
-/
structure IsBroadcast (reached : Finset Nat) (step : ClientStep) (change : Client → Client)
    (fleet after : Fleet) : Prop where
  calls : ∃ names : List Nat, names.Nodup ∧ (∀ name, name ∈ names ↔ name ∈ reached) ∧
    after.log = fleet.log ++ names.map (·, step)
  clients : ∀ name : Nat, after.clients[name]? =
    if name ∈ reached then fleet.clients[name]?.map change else fleet.clients[name]?
  network_eq : after.network = fleet.network
  clock_eq : after.clock = fleet.clock

/-- The fleets differ in the order of the calls in their logs at most. -/
structure SameUpToOrder (fleet other : Fleet) : Prop where
  clients_eq : fleet.clients = other.clients
  network_eq : fleet.network = other.network
  clock_eq : fleet.clock = other.clock
  log_perm : fleet.log.Perm other.log

theorem IsBroadcast.sameUpToOrder {reached : Finset Nat} {step : ClientStep}
    {change : Client → Client} {fleet after other : Fleet}
    (h : IsBroadcast reached step change fleet after)
    (hother : IsBroadcast reached step change fleet other) : after.SameUpToOrder other where
  clients_eq := List.ext_getElem? fun name => (h.clients name).trans (hother.clients name).symm
  network_eq := h.network_eq.trans hother.network_eq.symm
  clock_eq := h.clock_eq.trans hother.clock_eq.symm
  log_perm := by
    obtain ⟨names, hnodup, hnames, hlog⟩ := h.calls
    obtain ⟨others, hnodupOther, hothers, hlogOther⟩ := hother.calls
    have hperm : names.Perm others := (List.perm_ext_iff_of_nodup hnodup hnodupOther).mpr
      fun name => (hnames name).trans (hothers name).symm
    rw [hlog, hlogOther]
    exact (hperm.map _).append_left fleet.log

end Fleet

/-! ## The clients of a catalog -/

namespace Catalog

variable {c : Catalog} {name : Nat}

theorem mem_distinctClients :
    name ∈ c.distinctClients ↔ ∃ vaultId, c.client? vaultId = some name := by
  simp only [distinctClients, mem_firstOccurrences, List.mem_filterMap, client?_eq_some_iff,
    Prod.exists, exists_eq_right]

theorem cacheSize_eq_sum (c : Catalog) (fleet : Fleet) :
    c.cacheSize fleet = (c.distinctClients.map fleet.cacheSize).sum := by
  rw [cacheSize, List.sum_eq_foldl, List.foldl_map]

theorem distinctClients_perm {vaultIds : List String} (hnodup : vaultIds.Nodup)
    (hmem : ∀ vaultId name, c.client? vaultId = some name → vaultId ∈ vaultIds)
    (hown : ∀ vaultId other name, c.client? vaultId = some name → c.client? other = some name →
      vaultId = other) : c.distinctClients.Perm (vaultIds.filterMap c.client?) := by
  have hclients : (vaultIds.filterMap c.client?).Nodup :=
    List.Nodup.filterMap hown hnodup
  refine (List.perm_ext_iff_of_nodup (nodup_firstOccurrences _) hclients).mpr fun name => ?_
  rw [List.mem_filterMap]
  refine mem_distinctClients.trans ⟨?_, ?_⟩
  · rintro ⟨vaultId, hclient⟩
    exact ⟨vaultId, hmem vaultId name hclient, hclient⟩
  · rintro ⟨vaultId, -, hclient⟩
    exact ⟨vaultId, hclient⟩

/-! ## Broadcasts -/

/-- The clients under all keys of the table, enumerated or not. -/
def clientSet (c : Catalog) : Finset Nat :=
  (c.clients.entries.filterMap Prod.snd).toFinset

theorem mem_distinctClients_iff : name ∈ c.distinctClients ↔ name ∈ c.clientSet := by
  rw [distinctClients, mem_firstOccurrences, clientSet, List.mem_toFinset]

theorem clientSet_congr {other : Catalog} (hsame : ∀ id, other.client? id = c.client? id) :
    other.clientSet = c.clientSet := by
  ext name
  simp only [← mem_distinctClients_iff, mem_distinctClients, hsame]

theorem isBroadcast_foldl (c : Catalog) (step : ClientStep) (change : Client → Client)
    (fleet : Fleet) : Fleet.IsBroadcast c.clientSet step change fleet
      (c.distinctClients.foldl (Fleet.reach step change) fleet) := by
  have hnodup : c.distinctClients.Nodup := nodup_firstOccurrences _
  obtain ⟨clients, hrun⟩ :=
    Fleet.exists_clients_foldl_reach step change c.distinctClients fleet
  refine ⟨⟨c.distinctClients, hnodup, fun name => mem_distinctClients_iff, ?_⟩, fun name => ?_,
    ?_, ?_⟩
  · rw [hrun]
  · have hplaces := Fleet.clients_foldl_reach step change hnodup fleet name
    simpa only [mem_distinctClients_iff] using hplaces
  · rw [hrun]
  · rw [hrun]

theorem isBroadcast_invalidate (c : Catalog) (fleet : Fleet) :
    Fleet.IsBroadcast c.clientSet .invalidate Client.invalidate fleet (c.invalidate fleet) :=
  c.isBroadcast_foldl .invalidate Client.invalidate fleet

theorem isBroadcast_shutdown (c : Catalog) (fleet : Fleet) :
    Fleet.IsBroadcast c.clientSet .shutdown Client.shutdown fleet (c.shutdown fleet) :=
  c.isBroadcast_foldl .shutdown Client.shutdown fleet

theorem cacheSize_eq_sum_clientSet (c : Catalog) (fleet : Fleet) :
    c.cacheSize fleet = ∑ name ∈ c.clientSet, fleet.cacheSize name := by
  have hnodup : c.distinctClients.Nodup := nodup_firstOccurrences _
  have hset : c.clientSet = c.distinctClients.toFinset := by
    ext name
    rw [List.mem_toFinset, mem_distinctClients_iff]
  rw [cacheSize_eq_sum, hset, List.sum_toFinset _ hnodup]

/-! ## Clients of single vaults -/

theorem cacheSize_invalidate_of_vault? {client : Client} {v : VaultClient}
    (hvault : client.vault? = some v) : client.invalidate.cacheSize = 0 := by
  cases client with
  | disabled | scripted _ => cases hvault
  | inMemory _ _ | remote _ _ => rfl

theorem cacheSize_invalidate_eq_zero {c : Catalog} {fleet : Fleet}
    (hvaults : ∀ name ∈ c.clientSet, ∃ v, fleet.vault? name = some v) :
    c.cacheSize (c.invalidate fleet) = 0 := by
  rw [cacheSize_eq_sum_clientSet]
  refine Finset.sum_eq_zero fun name hname => ?_
  obtain ⟨v, hv⟩ := hvaults name hname
  obtain ⟨client, hclient, hvault⟩ := Option.bind_eq_some_iff.mp hv
  rw [Fleet.cacheSize, (c.isBroadcast_invalidate fleet).clients, if_pos hname, hclient]
  exact cacheSize_invalidate_of_vault? hvault

theorem exists_vault?_shutdown {c : Catalog} {fleet : Fleet} {name : Nat}
    (hname : name ∈ c.clientSet) {v : VaultClient} (hv : fleet.vault? name = some v) :
    (c.shutdown fleet).vault? name = some v.shutdown := by
  obtain ⟨client, hclient, hvault⟩ := Option.bind_eq_some_iff.mp hv
  rw [Fleet.vault?, (c.isBroadcast_shutdown fleet).clients, if_pos hname, hclient]
  cases client with
  | disabled | scripted _ => cases hvault
  | inMemory _ _ | remote _ _ =>
      cases hvault
      rfl

/-- Two vaults with one client, one without a client, and one that no id leads to. -/
def sharedCatalog : Catalog :=
  ofClients ["east"] (Table.ofList [("east", some 0), ("west", some 0), ("gone", none),
    ("we|st", some 1)])

def sharedFleet : Fleet :=
  .start [.inMemory (Fleet.sampleClient.keep [sampleCertificate "pki:01"] 0) .empty,
    .inMemory (Fleet.sampleClient.keep [] 0) .empty] (.ofRoutes true []) false

end Catalog
end CertCatalog
