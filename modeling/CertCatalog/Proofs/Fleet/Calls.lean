import CertCatalog.Fleet.Basic
import CertCatalog.Proofs.Vault.Details

/-!
# Calls of clients in memory

A call of one client answers as the client does, is logged, and changes no other client.  Calls that
only read leave what every server holds.
-/

namespace CertCatalog.Fleet

open CertCatalog.MemoryBackend

/-! ## Time that does not pass -/

theorem sweepUntil_zero (clock : Clock) (c : Client) : sweepUntil clock 0 c = c := by
  have hnone : ∀ v : VaultClient, v.lastSweep? clock.timer (clock.timer + 0) = none := by
    intro v
    unfold VaultClient.lastSweep?
    split
    · next interval _ =>
        have hle : clock.timer / interval * interval ≤ clock.timer := Nat.div_mul_le_self _ _
        simp [hle]
    · rfl
  unfold sweepUntil
  cases c.vault? with
  | none => rfl
  | some v => simp only [Option.bind_some, hnone]

theorem advance_zero (fleet : Fleet) : fleet.advance 0 = fleet := by
  have hclients : fleet.clients.map (sweepUntil fleet.clock 0) = fleet.clients := by
    rw [List.map_congr_left fun c _ => sweepUntil_zero fleet.clock c]
    simp
  have hclock : fleet.clock.advance 0 = fleet.clock := by
    simp [Clock.advance, Clock.wallAt]
  simp only [advance, hclients, hclock]

/-! ## The client that is called -/

@[simp] theorem clients_record (fleet : Fleet) (name : Nat) (step : ClientStep) :
    (fleet.record name step).clients = fleet.clients := rfl

theorem setClient_self {fleet : Fleet} {name : Nat} {c : Client}
    (hclient : fleet.clients[name]? = some c) (step : ClientStep) :
    (fleet.record name step).setClient name c = fleet.record name step := by
  obtain ⟨hlt, rfl⟩ := List.getElem?_eq_some_iff.mp hclient
  rw [setClient, clients_record, List.set_getElem_self]
  rfl

theorem call_of_missing {fleet : Fleet} {name : Nat} (hnone : fleet.clients[name]? = none) {α : Type}
    (step : ClientStep) (operation : {σ : Type} → CertificateSource σ → Action σ α) :
    call name step operation fleet = (.error .notConfigured, fleet.record name step) := by
  simp only [call, onClient, clients_record, hnone]

theorem call_of_client {fleet : Fleet} {name : Nat} {c : Client}
    (hclient : fleet.clients[name]? = some c) {α : Type} (step : ClientStep)
    (operation : {σ : Type} → CertificateSource σ → Action σ α) :
    call name step operation fleet =
      ((Client.run fleet.clock.wall operation (c, fleet.network)).1,
        { (fleet.record name step).setClient name
            (Client.run fleet.clock.wall operation (c, fleet.network)).2.1 with
          network := (Client.run fleet.clock.wall operation (c, fleet.network)).2.2 }) := by
  simp only [call, onClient, clients_record, hclient]
  rfl

theorem call_inMemory {fleet : Fleet} {name : Nat} {v : VaultClient} {b : MemoryBackend}
    (hclient : fleet.clients[name]? = some (.inMemory v b)) {α : Type} (step : ClientStep)
    (operation : {σ : Type} → CertificateSource σ → Action σ α) {outcome : Outcome α}
    {w : VaultClient} {after : MemoryBackend}
    (hrun : operation (VaultClient.source server fleet.clock.wall) (v, b) = (outcome, w, after)) :
    call name step operation fleet =
      (outcome, (fleet.record name step).setClient name (.inMemory w after)) := by
  rw [call_of_client hclient]
  simp only [Client.run, hrun]
  rfl

theorem details_inMemory {fleet : Fleet} {name : Nat} {v : VaultClient} {b : MemoryBackend}
    (hclient : fleet.clients[name]? = some (.inMemory v b)) (id : String) :
    ∃ after, details name id fleet =
        ((do let (mount, serial) ← v.resolve id
             b.detailsOutcome mount serial),
          (fleet.record name (.details id)).setClient name (.inMemory v after)) ∧
      SameContents b after := by
  obtain ⟨houtcome, hafter⟩ := VaultClient.details_apply v id b
  exact ⟨_, call_inMemory hclient _ _ (by rw [← houtcome]; rfl), hafter⟩

theorem pem_inMemory {fleet : Fleet} {name : Nat} {v : VaultClient} {b : MemoryBackend}
    (hclient : fleet.clients[name]? = some (.inMemory v b)) (id : String) :
    ∃ after, pem name id fleet =
        ((do let (mount, serial) ← v.resolve id
             b.recordOutcome mount serial),
          (fleet.record name (.pem id)).setClient name (.inMemory v after)) ∧
      SameContents b after := by
  obtain ⟨houtcome, hafter⟩ := VaultClient.pem_apply v id b
  exact ⟨_, call_inMemory hclient _ _ (by rw [← houtcome]; rfl), hafter⟩

theorem revoke_inMemory {fleet : Fleet} {name : Nat} {v : VaultClient} {b : MemoryBackend}
    (hclient : fleet.clients[name]? = some (.inMemory v b)) (id token : String) :
    revoke name id token fleet =
      ((v.revoke server id token b).1,
        (fleet.record name (.revoke id token)).setClient name
          (.inMemory v (v.revoke server id token b).2)) :=
  call_inMemory hclient _ _ rfl

theorem list_inMemory {fleet : Fleet} {name : Nat} {v : VaultClient} {b : MemoryBackend}
    (hclient : fleet.clients[name]? = some (.inMemory v b))
    (hcurrent : v.IsCurrent b fleet.clock.wall) :
    ∃ w after, list name fleet =
        (b.listing v.mounts, (fleet.record name .list).setClient name (.inMemory w after)) ∧
      w.mounts = v.mounts ∧ SameContents b after ∧ w.IsCurrent after fleet.clock.wall := by
  obtain ⟨w, after, hrun, hmounts, hafter, hkept⟩ := VaultClient.list_of_isCurrent hcurrent
  refine ⟨w, after, ?_, hmounts, hafter, hkept⟩
  have hnow : listNow name fleet =
      (b.listing v.mounts, (fleet.record name .list).setClient name (.inMemory w after)) :=
    call_inMemory hclient .list (fun source => source.list) hrun
  have hdelay : fleet.listDelay name = 0 := by
    simp [listDelay, hclient, Client.listDelay]
  simp only [list, hnow, hdelay, advance_zero]

theorem list_congr {fleet later : Fleet} {name : Nat}
    (hclient : later.clients[name]? = fleet.clients[name]?)
    (hnetwork : later.network = fleet.network) (hclock : later.clock = fleet.clock) :
    (list name later).1 = (list name fleet).1 := by
  show (listNow name later).1 = (listNow name fleet).1
  cases hfound : fleet.clients[name]? with
  | none => rw [listNow, call_of_missing hfound, call_of_missing (hclient.trans hfound)]
  | some c =>
      rw [listNow, call_of_client hfound, call_of_client (hclient.trans hfound), hnetwork, hclock]

/-! ## The log -/

theorem log_call {α : Type} (name : Nat) (step : ClientStep)
    (operation : {σ : Type} → CertificateSource σ → Action σ α) (fleet : Fleet) :
    (call name step operation fleet).2.log = fleet.log ++ [(name, step)] := by
  cases hclient : fleet.clients[name]? with
  | none => rw [call_of_missing hclient]; rfl
  | some c => rw [call_of_client hclient]; rfl

theorem log_listNow (name : Nat) (fleet : Fleet) :
    (listNow name fleet).2.log = fleet.log ++ [(name, .list)] :=
  log_call name .list (fun source => source.list) fleet

theorem log_list (name : Nat) (fleet : Fleet) :
    (list name fleet).2.log = fleet.log ++ [(name, .list)] :=
  log_listNow name fleet

/-! ## All other clients -/

theorem clients_called_self {fleet : Fleet} {name : Nat} {c : Client}
    (hclient : fleet.clients[name]? = some c) (step : ClientStep) (changed : Client) :
    ((fleet.record name step).setClient name changed).clients[name]? = some changed := by
  obtain ⟨hlt, -⟩ := List.getElem?_eq_some_iff.mp hclient
  simp [setClient, hlt]

theorem clients_called_of_ne (fleet : Fleet) {name other : Nat} (hne : other ≠ name)
    (step : ClientStep) (changed : Client) :
    ((fleet.record name step).setClient name changed).clients[other]? = fleet.clients[other]? := by
  simp [setClient, hne.symm]

/-! ## A single call -/

structure LeavesAlone (name : Nat) (fleet after : Fleet) : Prop where
  client_eq : after.clients[name]? = fleet.clients[name]?
  calls_eq : after.callsOf name = fleet.callsOf name

theorem LeavesAlone.refl (name : Nat) (fleet : Fleet) : LeavesAlone name fleet fleet :=
  ⟨rfl, rfl⟩

/--
One client, and no other one, has been called once.  The answer, the client and the network are what
the operation of the client itself makes of them.
-/
structure IsSingleCall {α : Type} (name : Nat) (step : ClientStep)
    (operation : {σ : Type} → CertificateSource σ → Action σ α) (fleet : Fleet)
    (answer : Outcome α) (after : Fleet) : Prop where
  log_eq : after.log = fleet.log ++ [(name, step)]
  clock_eq : after.clock = fleet.clock
  others : ∀ other ≠ name, LeavesAlone other fleet after
  called : ∀ c, fleet.clients[name]? = some c → ∃ changed,
    Client.run fleet.clock.wall operation (c, fleet.network) =
      (answer, changed, after.network) ∧ after.clients[name]? = some changed

theorem callsOf_of_ne {fleet after : Fleet} {name other : Nat} (hne : other ≠ name)
    {step : ClientStep} (hlog : after.log = fleet.log ++ [(name, step)]) :
    after.callsOf other = fleet.callsOf other := by
  have hskip : (name == other) = false := beq_eq_false_iff_ne.mpr hne.symm
  simp [callsOf, hlog, hskip]

theorem isSingleCall_call {α : Type} (name : Nat) (step : ClientStep)
    (operation : {σ : Type} → CertificateSource σ → Action σ α) (fleet : Fleet) :
    IsSingleCall name step operation fleet (call name step operation fleet).1
      (call name step operation fleet).2 := by
  have hlog := log_call name step operation fleet
  cases hclient : fleet.clients[name]? with
  | none =>
      rw [call_of_missing hclient] at hlog ⊢
      refine ⟨hlog, rfl, fun other hne => ⟨rfl, callsOf_of_ne hne hlog⟩, ?_⟩
      intro c hc
      rw [hclient] at hc
      cases hc
  | some c =>
      rw [call_of_client hclient] at hlog ⊢
      refine ⟨hlog, rfl, fun other hne => ⟨?_, callsOf_of_ne hne hlog⟩, ?_⟩
      · exact clients_called_of_ne fleet hne step _
      · intro called hcalled
        obtain rfl := Option.some.inj (hclient.symm.trans hcalled)
        exact ⟨_, rfl, clients_called_self hclient step _⟩

/-! ## What the servers hold -/

/-- Clients in memory stay in their places with their mounts, and their servers hold the same. -/
def SameServers (fleet later : Fleet) : Prop :=
  ∀ (name : Nat) (v : VaultClient) (b : MemoryBackend),
    fleet.clients[name]? = some (Client.inMemory v b) → ∃ w after,
      later.clients[name]? = some (Client.inMemory w after) ∧ w.mounts = v.mounts ∧
        SameContents b after

theorem SameServers.refl (fleet : Fleet) : SameServers fleet fleet :=
  fun _ v b hclient => ⟨v, b, hclient, rfl, .refl b⟩

theorem SameServers.trans {first second third : Fleet} (hfirst : SameServers first second)
    (hsecond : SameServers second third) : SameServers first third := by
  intro name v b hclient
  obtain ⟨w, after, hclient, hmounts, hafter⟩ := hfirst name v b hclient
  obtain ⟨x, last, hclient, hkept, hlast⟩ := hsecond name w after hclient
  exact ⟨x, last, hclient, hkept.trans hmounts, hafter.trans hlast⟩

theorem sameServers_setClient {fleet : Fleet} {name : Nat} {v w : VaultClient}
    {b after : MemoryBackend} (hclient : fleet.clients[name]? = some (.inMemory v b))
    (hmounts : w.mounts = v.mounts) (hafter : SameContents b after) (step : ClientStep) :
    SameServers fleet ((fleet.record name step).setClient name (.inMemory w after)) := by
  intro other x held hother
  by_cases hname : other = name
  · subst hname
    obtain ⟨rfl, rfl⟩ : x = v ∧ held = b := by simpa [hother] using hclient
    exact ⟨w, after, clients_called_self hother step _, hmounts,
      hafter⟩
  · rw [clients_called_of_ne _ hname]
    exact ⟨x, held, hother, rfl, .refl held⟩

theorem sameServers_call {fleet : Fleet} {name : Nat}
    (hother : ∀ v b, fleet.clients[name]? ≠ some (.inMemory v b)) {α : Type} (step : ClientStep)
    (operation : {σ : Type} → CertificateSource σ → Action σ α) :
    SameServers fleet (call name step operation fleet).2 := by
  intro other v b hclient
  have hne : other ≠ name := fun heq => hother v b (heq ▸ hclient)
  have hleft := ((isSingleCall_call name step operation fleet).others other hne).client_eq
  exact ⟨v, b, hleft.trans hclient, rfl, .refl b⟩

theorem sameServers_details (fleet : Fleet) (name : Nat) (id : String) :
    SameServers fleet (details name id fleet).2 := by
  by_cases hmemory : ∃ v b, fleet.clients[name]? = some (.inMemory v b)
  · obtain ⟨v, b, hclient⟩ := hmemory
    obtain ⟨after, hrun, hafter⟩ := details_inMemory hclient id
    rw [hrun]
    exact sameServers_setClient hclient rfl hafter _
  · exact sameServers_call (fun v b hclient => hmemory ⟨v, b, hclient⟩) _ _

/-! ## Listing several clients at one moment -/

/--
No time has passed, and every client in memory whose cache was current lists what it listed before
and is current still.
-/
structure StaysCurrent (fleet later : Fleet) : Prop where
  wall_eq : later.clock.wall = fleet.clock.wall
  clients : ∀ (name : Nat) (v : VaultClient) (b : MemoryBackend),
    fleet.clients[name]? = some (Client.inMemory v b) → v.IsCurrent b fleet.clock.wall →
      ∃ w after, later.clients[name]? = some (Client.inMemory w after) ∧ w.mounts = v.mounts ∧
        SameContents b after ∧ w.IsCurrent after fleet.clock.wall

theorem StaysCurrent.refl (fleet : Fleet) : StaysCurrent fleet fleet :=
  ⟨rfl, fun _ v b hclient hcurrent => ⟨v, b, hclient, rfl, .refl b, hcurrent⟩⟩

/-- The step lemma: a client that was current at first lists what its server held at first. -/
theorem StaysCurrent.list {fleet later : Fleet} (h : StaysCurrent fleet later) {name : Nat}
    {v : VaultClient} {b : MemoryBackend}
    (hclient : fleet.clients[name]? = some (.inMemory v b))
    (hcurrent : v.IsCurrent b fleet.clock.wall) :
    ∃ last, Fleet.list name later = (b.listing v.mounts, last) ∧ StaysCurrent fleet last := by
  obtain ⟨w, held, hheld, hmounts, hsame, hstill⟩ := h.clients name v b hclient hcurrent
  obtain ⟨x, after, hrun, hkept, hafter, hnext⟩ := list_inMemory hheld (h.wall_eq ▸ hstill)
  refine ⟨(later.record name .list).setClient name (.inMemory x after), ?_, h.wall_eq, ?_⟩
  · rw [hrun, hmounts, hsame.listing_eq]
  · intro other y first hother hfirst
    -- The client that has listed has a new cache; all others are as they were before the call.
    by_cases hname : other = name
    · subst hname
      obtain ⟨rfl, rfl⟩ : y = v ∧ first = b := by simpa [hclient, eq_comm] using hother
      exact ⟨x, after, clients_called_self hheld .list _,
        hkept.trans hmounts, hsame.trans hafter, h.wall_eq ▸ hnext⟩
    · rw [clients_called_of_ne _ hname]
      exact h.clients other y first hother hfirst

/-! ## A fleet of one client -/

def sampleClient : VaultClient := .start "shared" ["pki"] 60000 none

def sampleFleet : Fleet :=
  .start [.inMemory sampleClient (sampleServer [("pki", "0a:1b")])] (.ofRoutes true []) false

end CertCatalog.Fleet
