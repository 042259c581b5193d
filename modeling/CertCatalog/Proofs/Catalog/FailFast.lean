import CertCatalog.Proofs.Catalog.Checks
import CertCatalog.Proofs.Catalog.Runs
import CertCatalog.Proofs.Fleet.Checks
import CertCatalog.Proofs.Fleet.Continuity
import CertCatalog.Registry

/-!
# Checks that stop at the first failure

What a check of a catalog answers, which clients it calls for it, and that it changes no cache and no
listing.
-/

namespace CertCatalog

open CertCatalog.Fleet (ListsAlike)

/-! ## Listings after checks -/

namespace Catalog

theorem agree_listVault (c : Catalog) (longer : Nat) (vaultId : String) :
    Action.Agree (ListsAlike longer) (c.listVault vaultId) (c.listVault vaultId) :=
  Action.Agree.answer_bind fun name _ =>
    (Fleet.agree_list longer name).bind fun _ _ => .answer _

theorem agree_list (c : Catalog) (longer : Nat) :
    Action.Agree (ListsAlike longer) c.list c.list := by
  intro fleet other h
  obtain ⟨houtcomes, hafter⟩ := Action.Agree.attemptAll
    (fun vaultId (_ : vaultId ∈ c.vaultIds) => c.agree_listVault longer vaultId) h
  rw [list_apply, list_apply, houtcomes]
  split
  · exact ⟨rfl, h⟩
  · exact ⟨rfl, hafter⟩

theorem agree_probing (c : Catalog) (longer deadline : Nat) (vaultId : String) :
    Action.Agree (ListsAlike longer) (c.probing deadline vaultId) (c.probing deadline vaultId) := by
  intro fleet other h
  unfold probing
  cases hclient : c.client? vaultId with
  | none =>
      rw [probe_of_missing hclient, probe_of_missing hclient]
      exact ⟨rfl, h⟩
  | some name =>
      obtain ⟨hanswer, hafter⟩ := h.listWithin deadline name
      rw [probe_of_client hclient, probe_of_client hclient, hanswer, h.timeTaken_eq hafter]
      exact ⟨rfl, hafter⟩

theorem listByVault_eq_of_listsAlike (c : Catalog) {longer : Nat} {fleet other : Fleet}
    (h : ListsAlike longer fleet other) (deadline : Nat) :
    (c.listByVault deadline fleet).1 = (c.listByVault deadline other).1 := by
  have hrun := (Action.Agree.attemptAll
    (fun vaultId (_ : vaultId ∈ c.vaultIds) => c.agree_probing longer deadline vaultId) h).1
  rw [attemptAll_probing, attemptAll_probing] at hrun
  exact (List.map_inj_right fun _ _ => Except.ok.inj).mp hrun

end Catalog

/-! ## What a check leaves -/

namespace Fleet

theorem keeps_clients_check (clients : List Client) (name : Nat) :
    Action.Keeps (fun fleet => fleet.clients = clients) (check name) :=
  fun fleet hclients => (clients_check name fleet).trans hclients

theorem keeps_listsAlike_check (start : Fleet) (name : Nat) :
    Action.Keeps (fun fleet => ∃ longer, ListsAlike longer start fleet) (check name) := by
  rintro fleet ⟨longer, h⟩
  have haddressed : fleet.IsAddressed := fun c hc => h.addressed c (h.clients ▸ hc)
  obtain ⟨more, hnext⟩ := listsAlike_check haddressed h.network.otherDirect name
  exact ⟨longer + more, h.trans hnext⟩

/-- Listings of single clients and of catalogs show no difference, now and after any time. -/
structure SameListings (fleet after : Fleet) : Prop where
  client : ∀ millis name,
    (list name (after.advance millis)).1 = (list name (fleet.advance millis)).1
  catalog : ∀ millis (c : Catalog),
    (c.list (after.advance millis)).1 = (c.list (fleet.advance millis)).1
  byVault : ∀ millis (c : Catalog) (deadline : Nat),
    (c.listByVault deadline (after.advance millis)).1 =
      (c.listByVault deadline (fleet.advance millis)).1

theorem ListsAlike.sameListings {longer : Nat} {fleet after : Fleet}
    (h : ListsAlike longer fleet after) : fleet.SameListings after where
  client millis name := (agree_list longer name _ _ (h.advance millis)).1.symm
  catalog millis c := (c.agree_list longer _ _ (h.advance millis)).1.symm
  byVault millis c deadline := (c.listByVault_eq_of_listsAlike (h.advance millis) deadline).symm

end Fleet

/-! ## Fleets of registries -/

theorem CertificateSource.keeps_const {σ : Type} (source : CertificateSource σ) (p : Prop) :
    source.Keeps fun _ => p where
  list _ h := h
  details _ _ h := h
  pem _ _ h := h
  revoke _ _ _ h := h
  check _ h := h
  invalidate _ h := h
  shutdown _ h := h

/-- Servers keep their addresses, and no request adds a reply that leads to another place. -/
theorem Client.isInvariant_isAddressed :
    Client.IsInvariant Client.IsAddressed Http.Network.IsDirect :=
  Client.IsKeptByVaults.isInvariant
    { inMemory := fun _ _ _ _ => CertificateSource.keeps_const _ _
      backend := fun _ _ _ h => h
      remote := fun _ server _ now =>
        have hlasts : VaultClient.Lasts fun _ => server.HasAddress :=
          ⟨fun _ _ _ h => h, fun _ h => h, fun _ h => h, fun _ _ h => h⟩
        hlasts.source server.keeps_isDirect now
      network := fun _ server _ => server.keeps_isDirect
      sweep := fun c _ h => by cases c <;> exact h }

theorem Registry.isAddressed_clientOf {config : Configuration} {files : Files} {entry : VaultEntry}
    {c : Client} (hclient : clientOf config files entry = .ok c) : c.IsAddressed := by
  obtain ⟨server, hserver, hclient⟩ := exists_of_bind_eq_ok hclient
  obtain ⟨trust, -, haddress⟩ := exists_of_bind_eq_ok hserver
  cases hclient
  exact ⟨_, _, _, _, haddress⟩

theorem Registry.Assembly.isAddressed_add {a : Assembly} (ha : ∀ c ∈ a.clients, c.IsAddressed)
    {entry : VaultEntry} {client : Outcome Client}
    (hclient : ∀ c, client = .ok c → c.IsAddressed) :
    ∀ c ∈ (a.add entry client).clients, c.IsAddressed := by
  cases client with
  | error e => exact ha
  | ok added =>
      intro c hc
      rcases List.mem_append.mp hc with hold | hnew
      · exact ha c hold
      · rw [List.mem_singleton.mp hnew]
        exact hclient added rfl

theorem Registry.isAddressed_ofConfiguration (config : Configuration) (files : Files) :
    ∀ c ∈ (Registry.ofConfiguration config files).2, c.IsAddressed := by
  have hfold : ∀ (entries : List VaultEntry) (a : Assembly), (∀ c ∈ a.clients, c.IsAddressed) →
      ∀ c ∈ (entries.foldl (fun a entry => a.add entry (clientOf config files entry)) a).clients,
        c.IsAddressed := by
    intro entries
    induction entries with
    | nil => exact fun _ ha => ha
    | cons entry rest ih =>
        exact fun a ha => ih _ (Assembly.isAddressed_add ha fun _ => isAddressed_clientOf)
  have hempty : ∀ c ∈ Assembly.empty.clients, c.IsAddressed := List.forall_mem_nil _
  exact hfold config.vaults .empty hempty

theorem Registry.isAddressed_after (config : Configuration) (files : Files)
    {network : Http.Network} (hdirect : network.IsDirect) (wallMoves : Bool) (c : Catalog)
    (steps : List CatalogStep) :
    Fleet.Holds Client.IsAddressed Http.Network.IsDirect
      (c.after (.start (Registry.ofConfiguration config files).2 network wallMoves) steps) :=
  Client.isInvariant_isAddressed.fleet.after c
    ⟨Registry.isAddressed_ofConfiguration config files, hdirect⟩ steps

namespace Catalog

/-- No listing shows whether the catalog or one of the clients has just been checked. -/
def HidesChecks (c : Catalog) (fleet : Fleet) : Prop :=
  fleet.SameListings (c.check fleet).2 ∧ ∀ name, fleet.SameListings (Fleet.check name fleet).2

theorem hidesChecks (c : Catalog) {fleet : Fleet}
    (h : fleet.Holds Client.IsAddressed Http.Network.IsDirect) : c.HidesChecks fleet := by
  have haddressed : fleet.IsAddressed := h.clients
  obtain ⟨longer, hcheck⟩ := keeps_check (Fleet.keeps_listsAlike_check fleet) c fleet
    ⟨0, .refl haddressed h.network⟩
  refine ⟨hcheck.sameListings, fun name => ?_⟩
  obtain ⟨more, hname⟩ := Fleet.listsAlike_check haddressed h.network name
  exact hname.sameListings

/-! ## The answer of a check -/

/--
The catalog is checked up to the first failure.  Without vaults nothing is called.  Otherwise the
answer is a success exactly if all vaults pass, and else the failure of the first one that does not.
Every vault before that one has a client, and these clients and its own one, if it has one, are all
that is called, each once for each of its vaults.
-/
structure FailsFast (c : Catalog) (fleet : Fleet) : Prop where
  unconfigured : c.vaultIds = [] → c.check fleet = (.error .notConfigured, fleet)
  ok_iff : c.vaultIds ≠ [] → ∀ after,
    c.check fleet = (.ok (), after) ↔ c.PassesAll c.vaultIds fleet after
  error_iff : c.vaultIds ≠ [] → ∀ e after,
    c.check fleet = (.error e, after) ↔
      ∃ passed vaultId rest, c.vaultIds = passed ++ vaultId :: rest ∧
        c.StopsAt passed vaultId fleet e after
  clients_of_passesAll : ∀ vaultIds after, c.PassesAll vaultIds fleet after →
    (∀ id ∈ vaultIds, (c.client? id).isSome = true) ∧
      after.log = fleet.log ++ c.checkCalls vaultIds
  calls_of_stopsAt : ∀ passed vaultId e after, c.StopsAt passed vaultId fleet e after →
    after.log = fleet.log ++ c.checkCalls (passed ++ [vaultId])

theorem failsFast (c : Catalog) (fleet : Fleet) : c.FailsFast fleet where
  unconfigured hnil := check_of_nil hnil fleet
  ok_iff hne after := by rw [check_of_ne_nil hne, checkFrom_eq_ok_iff]
  error_iff hne e after := by rw [check_of_ne_nil hne, checkFrom_eq_error_iff]
  clients_of_passesAll _ _ h := ⟨client?_of_passesAll h, log_of_passesAll h⟩
  calls_of_stopsAt _ _ _ _ h := log_of_stopsAt h

/-- A client that is well, one of a remote server, a vault without a client and one that is sealed. -/
def checkedCatalog : Catalog :=
  ofClients ["east", "west", "gone", "north"]
    (Table.ofList [("east", some 0), ("west", some 1), ("gone", none), ("north", some 2)])

def checkedRoute (place : String) (body : String) : Http.Route :=
  { method := "GET"
    url := "http://127.0.0.1:8200/vault/v1/" ++ place
    status := 200
    body := Bytes.utf8 body
    once := true
    delay := 3
    closes := false
    truncated := false }

def checkedFleet : Fleet :=
  .start
    [.scripted (sampleScript [] none 0), .remote Fleet.sampleClient Remote.sampleRemote,
      .scripted { sampleScript [] none 0 with connectionError := some .sealed }]
    (.ofRoutes true
      [checkedRoute
          "sys/health?standbyok=true&perfstandbyok=true&sealedcode=200&uninitcode=200"
          (Json.ofFields [("initialized", .bool true), ("sealed", .bool false)]).compact,
        checkedRoute "auth/token/lookup-self" ""]) true

theorem isAddressed_checkedFleet : checkedFleet.IsAddressed := by
  have hremote : Remote.sampleRemote.HasAddress :=
    ⟨"http://127.0.0.1:8200/vault/", ⟨"r"⟩, { skipVerification := false, bundle := none }, 5000, by
      decide +kernel⟩
  simp [Fleet.IsAddressed, checkedFleet, Fleet.start, Client.IsAddressed, hremote]

end Catalog
end CertCatalog
