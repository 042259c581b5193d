import CertCatalog.Proofs.Fleet.Deadlines
import CertCatalog.Proofs.Vault.CheckRequests

/-!
# Checks of clients

What a check of one client answers, and that no listing shows afterwards whether there was a check:
all clients are as they were, and what has arrived are requests that no listing makes.
-/

namespace CertCatalog

/-! ## Checks of a server -/

namespace VaultClient

variable {σ : Type} {server : Server σ} {s after : σ} {e : CatalogError}

def Passes (server : Server σ) (s after : σ) : Prop :=
  ∃ health next, server.health s = (.ok health, next) ∧ health.initialized = true ∧
    health.sealed = false ∧ server.checkToken next = (.ok (), after)

/-- The first of the four things that can be wrong with a server, and what is left behind then. -/
inductive CheckFailure (server : Server σ) (s : σ) : CatalogError → σ → Prop where
  | health {e : CatalogError} {next : σ} (hhealth : server.health s = (.error e, next)) :
      CheckFailure server s e next
  | uninitialized {health : Health} {next : σ} (hhealth : server.health s = (.ok health, next))
      (hnot : health.initialized = false) : CheckFailure server s .uninitialized next
  | sealed {health : Health} {next : σ} (hhealth : server.health s = (.ok health, next))
      (hinitialized : health.initialized = true) (hsealed : health.sealed = true) :
      CheckFailure server s .sealed next
  | token {health : Health} {e : CatalogError} {next after : σ}
      (hhealth : server.health s = (.ok health, next)) (hinitialized : health.initialized = true)
      (hopen : health.sealed = false) (htoken : server.checkToken next = (.error e, after)) :
      CheckFailure server s e after

theorem check_of_health_error (hhealth : server.health s = (.error e, after)) :
    check server s = (.error e, after) :=
  Action.bind_of_error hhealth

theorem check_of_health {health : Health} {next : σ}
    (hhealth : server.health s = (.ok health, next)) :
    check server s =
      if !health.initialized then (.error .uninitialized, next)
      else if health.sealed then (.error .sealed, next)
      else server.checkToken next := by
  refine (Action.bind_of_ok hhealth).trans ?_
  split
  · rfl
  · split <;> rfl

theorem check_of_passes (h : Passes server s after) : check server s = (.ok (), after) := by
  obtain ⟨health, next, hhealth, hinitialized, hopen, htoken⟩ := h
  rw [check_of_health hhealth, hinitialized, hopen]
  exact htoken

theorem check_of_failure (h : CheckFailure server s e after) :
    check server s = (.error e, after) := by
  cases h with
  | health hhealth => exact check_of_health_error hhealth
  | uninitialized hhealth hnot => rw [check_of_health hhealth, hnot]; rfl
  | sealed hhealth hinitialized hsealed =>
      rw [check_of_health hhealth, hinitialized, hsealed]
      rfl
  | token hhealth hinitialized hopen htoken =>
      rw [check_of_health hhealth, hinitialized, hopen]
      exact htoken

theorem passes_or_checkFailure (server : Server σ) (s : σ) :
    (∃ after, Passes server s after) ∨ ∃ e after, CheckFailure server s e after := by
  cases hhealth : server.health s with
  | mk outcome next =>
      cases outcome with
      | error e => exact .inr ⟨e, next, .health hhealth⟩
      | ok health =>
          cases hinitialized : health.initialized with
          | false => exact .inr ⟨_, next, .uninitialized hhealth hinitialized⟩
          | true =>
              cases hsealed : health.sealed with
              | true => exact .inr ⟨_, next, .sealed hhealth hinitialized hsealed⟩
              | false =>
                  cases htoken : server.checkToken next with
                  | mk answer after =>
                      cases answer with
                      | error e => exact .inr ⟨e, after, .token hhealth hinitialized hsealed htoken⟩
                      | ok _ =>
                          exact .inl ⟨after, health, next, hhealth, hinitialized, hsealed, htoken⟩

theorem check_eq_ok_iff : check server s = (.ok (), after) ↔ Passes server s after := by
  refine ⟨fun hok => ?_, check_of_passes⟩
  rcases passes_or_checkFailure server s with ⟨last, hpasses⟩ | ⟨e, last, hfailure⟩
  · cases hok.symm.trans (check_of_passes hpasses)
    exact hpasses
  · cases hok.symm.trans (check_of_failure hfailure)

theorem check_eq_error_iff :
    check server s = (.error e, after) ↔ CheckFailure server s e after := by
  refine ⟨fun herror => ?_, check_of_failure⟩
  rcases passes_or_checkFailure server s with ⟨last, hpasses⟩ | ⟨e, last, hfailure⟩
  · cases herror.symm.trans (check_of_passes hpasses)
  · cases herror.symm.trans (check_of_failure hfailure)
    exact hfailure

end VaultClient

/-! ## Checks of a client -/

namespace Client

variable {now : Nat} {v : VaultClient} {b : MemoryBackend} {net : Http.Network}

theorem run_check_inMemory :
    Client.run now (fun source => source.check) (.inMemory v b, net) =
      ((VaultClient.check MemoryBackend.server b).1, .inMemory v b, net) := by
  have hkept : Action.Keeps (· = b) (VaultClient.check MemoryBackend.server) :=
    VaultClient.keeps_check (fun _ hs => hs) (fun _ hs => hs)
  have hafter : (VaultClient.check MemoryBackend.server b).2 = b := hkept b rfl
  show (_, Client.inMemory v (VaultClient.check MemoryBackend.server b).2, net) = _
  rw [hafter]
  rfl

theorem run_check_client (c : Client) :
    (Client.run now (fun source => source.check) (c, net)).2.1 = c := by
  cases c with
  | inMemory v b => rw [run_check_inMemory]
  | disabled | scripted _ | remote _ _ => rfl

def IsAddressed : Client → Prop
  | .remote _ r => r.HasAddress
  | .disabled | .scripted _ | .inMemory _ _ => True

theorem isAddressed_run {α : Type} {operation : {σ : Type} → CertificateSource σ → Action σ α}
    {c : Client} (hc : c.IsAddressed) (net : Http.Network) :
    (Client.run now operation (c, net)).2.1.IsAddressed := by
  cases c <;> exact hc

theorem sameApartFrom_run_check {c : Client} (hc : c.IsAddressed) {net : Http.Network}
    (hnet : net.IsDirect) :
    ∃ longer, Http.Network.SameApartFrom isCheckPlace longer net
      (Client.run now (fun source => source.check) (c, net)).2.2 := by
  cases c with
  | disabled | scripted _ | inMemory _ _ => exact ⟨0, .refl hnet⟩
  | remote v r => exact Remote.sameApartFrom_check hc hnet

structure SameView (longer : Nat) (first second : Client × Http.Network) : Prop where
  client : first.1 = second.1
  addressed : first.1.IsAddressed
  network : Http.Network.SameApartFrom isCheckPlace longer first.2 second.2

theorem agree_list (now longer : Nat) :
    Action.Agree (SameView longer) (Client.run now fun source => source.list)
      (Client.run now fun source => source.list) := by
  rintro ⟨c, net⟩ ⟨-, other⟩ ⟨rfl, hc, hsame⟩
  have hkept : (Client.run now (fun source => source.list) (c, net)).2.1.IsAddressed :=
    isAddressed_run hc net
  cases c with
  | disabled | scripted _ | inMemory _ _ => exact ⟨rfl, rfl, hkept, hsame⟩
  | remote v r =>
      obtain ⟨houtcome, hclient, hafter⟩ := VaultClient.agree_list
        (Remote.readsAgree_of_hasAddress hc) (fun _ _ => trivial) now hsame
      exact ⟨houtcome, congrArg (Client.remote · r) hclient, hkept, hafter⟩

end Client

/-! ## Checks in a fleet -/

namespace Fleet

variable {fleet other : Fleet} {name longer more : Nat}

theorem check_of_client {c : Client} (hclient : fleet.clients[name]? = some c) :
    check name fleet =
      ((Client.run fleet.clock.wall (fun source => source.check) (c, fleet.network)).1,
        { fleet.record name .check with
          network :=
            (Client.run fleet.clock.wall (fun source => source.check) (c, fleet.network)).2.2 }) := by
  rw [check, call_of_client hclient, Client.run_check_client, setClient_self hclient]

theorem check_of_missing (hnone : fleet.clients[name]? = none) :
    check name fleet = (.error .notConfigured, fleet.record name .check) :=
  call_of_missing hnone _ _

theorem clients_check (name : Nat) (fleet : Fleet) :
    (check name fleet).2.clients = fleet.clients := by
  cases hclient : fleet.clients[name]? with
  | none => rw [check_of_missing hclient]; rfl
  | some c => rw [check_of_client hclient]; rfl

theorem clock_check (name : Nat) (fleet : Fleet) : (check name fleet).2.clock = fleet.clock :=
  (isSingleCall_call name .check (fun source => source.check) fleet).clock_eq

def IsAddressed (fleet : Fleet) : Prop :=
  ∀ c ∈ fleet.clients, c.IsAddressed

/-! ## Fleets that list alike -/

/--
The fleets have the same clients at the same time, and their networks differ at places of checks
only, except that one of them has waited longer.
-/
structure ListsAlike (longer : Nat) (fleet other : Fleet) : Prop where
  clients : fleet.clients = other.clients
  clock : fleet.clock = other.clock
  addressed : fleet.IsAddressed
  network : Http.Network.SameApartFrom isCheckPlace longer fleet.network other.network

theorem ListsAlike.refl (haddressed : fleet.IsAddressed) (hdirect : fleet.network.IsDirect) :
    ListsAlike 0 fleet fleet :=
  ⟨rfl, rfl, haddressed, .refl hdirect⟩

theorem ListsAlike.trans {last : Fleet} (h : ListsAlike longer fleet other)
    (hnext : ListsAlike more other last) : ListsAlike (longer + more) fleet last :=
  ⟨h.clients.trans hnext.clients, h.clock.trans hnext.clock, h.addressed,
    h.network.trans hnext.network⟩

/-- The step lemma: a fleet that has been checked lists as it did before. -/
theorem listsAlike_check (haddressed : fleet.IsAddressed) (hdirect : fleet.network.IsDirect)
    (name : Nat) : ∃ longer, ListsAlike longer fleet (check name fleet).2 := by
  have hnetwork : ∃ longer, Http.Network.SameApartFrom isCheckPlace longer fleet.network
      (check name fleet).2.network := by
    cases hclient : fleet.clients[name]? with
    | none => rw [check_of_missing hclient]; exact ⟨0, .refl hdirect⟩
    | some c =>
        rw [check_of_client hclient]
        exact Client.sameApartFrom_run_check (haddressed c (List.mem_of_getElem? hclient)) hdirect
  obtain ⟨longer, hnetwork⟩ := hnetwork
  exact ⟨longer, (clients_check name fleet).symm, (clock_check name fleet).symm, haddressed,
    hnetwork⟩

theorem ListsAlike.listDelay_eq (h : ListsAlike longer fleet other) (name : Nat) :
    fleet.listDelay name = other.listDelay name := by
  rw [listDelay, listDelay, h.clients]

theorem ListsAlike.advance (h : ListsAlike longer fleet other) (millis : Nat) :
    ListsAlike longer (fleet.advance millis) (other.advance millis) := by
  refine ⟨?_, ?_, fun c hc => ?_, h.network⟩
  · simp only [Fleet.advance, h.clients, h.clock]
  · simp only [Fleet.advance, h.clock]
  · obtain ⟨before, hbefore, rfl⟩ := List.mem_map.mp hc
    have haddressed := h.addressed before hbefore
    unfold sweepUntil
    split
    · cases before <;> exact haddressed
    · exact haddressed

theorem agree_listNow (longer name : Nat) :
    Action.Agree (ListsAlike longer) (listNow name) (listNow name) := by
  intro fleet other h
  cases hclient : fleet.clients[name]? with
  | none =>
      rw [listNow, call_of_missing hclient, call_of_missing (h.clients ▸ hclient)]
      exact ⟨rfl, h.clients, h.clock, h.addressed, h.network⟩
  | some c =>
      have haddressed := h.addressed c (List.mem_of_getElem? hclient)
      obtain ⟨houtcome, hchanged⟩ := Client.agree_list fleet.clock.wall longer
        (c, fleet.network) (c, other.network) ⟨rfl, haddressed, h.network⟩
      rw [listNow, call_of_client hclient, call_of_client (h.clients ▸ hclient), ← h.clock]
      refine ⟨houtcome, ?_, h.clock, ?_, hchanged.network⟩
      · simp only [setClient, clients_record, h.clients, hchanged.client]
      · intro d hd
        rcases List.mem_or_eq_of_mem_set hd with hold | rfl
        · exact h.addressed d hold
        · exact hchanged.addressed

theorem agree_list (longer name : Nat) :
    Action.Agree (ListsAlike longer) (list name) (list name) := by
  intro fleet other h
  obtain ⟨houtcome, hafter⟩ := agree_listNow longer name fleet other h
  refine ⟨houtcome, ?_⟩
  show ListsAlike longer ((listNow name fleet).2.advance (fleet.listDelay name))
    ((listNow name other).2.advance (other.listDelay name))
  rw [h.listDelay_eq]
  exact hafter.advance _

theorem ListsAlike.timeTaken_eq {after last : Fleet} (h : ListsAlike longer fleet other)
    (hafter : ListsAlike longer after last) (name : Nat) :
    timeTaken fleet after name = timeTaken other last name := by
  have hbefore := h.network.waited
  have hlast := hafter.network.waited
  rw [timeTaken, timeTaken, h.listDelay_eq]
  omega

theorem ListsAlike.listWithin (h : ListsAlike longer fleet other) (deadline name : Nat) :
    (Fleet.listWithin deadline name fleet).1 = (Fleet.listWithin deadline name other).1 ∧
      ListsAlike longer (Fleet.listWithin deadline name fleet).2
        (Fleet.listWithin deadline name other).2 := by
  obtain ⟨houtcome, hafter⟩ := agree_listNow longer name fleet other h
  have htime := h.timeTaken_eq hafter name
  simp only [Fleet.listWithin, htime]
  split
  · exact ⟨rfl, h.clients, hafter.clock, h.addressed, hafter.network⟩
  · exact ⟨congrArg some houtcome, hafter⟩

end Fleet
end CertCatalog
