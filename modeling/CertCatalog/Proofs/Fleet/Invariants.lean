import CertCatalog.Proofs.Fleet.Calls
import CertCatalog.Proofs.Fleet.Deadlines
import CertCatalog.Proofs.Vault.Invariants

/-!
# Invariants of fleets

An invariant of a fleet is left true by every call of a client, by time and by changes of servers.  A
property of clients and one of the network that every operation of one client leaves true together
make up an invariant of the whole fleet.
-/

namespace CertCatalog

def Client.source (now : Nat) : CertificateSource (Client × Http.Network) where
  list := Client.run now fun source => source.list
  details id := Client.run now fun source => source.details id
  pem id := Client.run now fun source => source.pem id
  revoke id token := Client.run now fun source => source.revoke id token
  check := Client.run now fun source => source.check
  invalidate := fun (c, net) => (c.invalidate, net)
  shutdown := fun (c, net) => (c.shutdown, net)
  cacheSize := fun (c, _) => c.cacheSize

/-- A change from outside, which reaches a server in memory only. -/
def Client.apply (change : MemoryBackend.BackendCommand) : Client → Client
  | .inMemory v b => .inMemory v (b.apply change)
  | other => other

/-! ## One client -/

/--
What every operation of a client leaves true of the client and the network: those of its user, those
of its server, sweeps and changes of a server in memory.
-/
structure Client.IsInvariant (good : Client → Prop) (quiet : Http.Network → Prop) : Prop where
  source : ∀ now, (Client.source now).Keeps fun state => good state.1 ∧ quiet state.2
  readCrl : ∀ mount, Action.Keeps (fun state => good state.1 ∧ quiet state.2)
    (Client.onServer fun client server => client.readCrl server mount)
  rotateCrl : ∀ mount, Action.Keeps (fun state => good state.1 ∧ quiet state.2)
    (Client.onServer fun client server => client.rotateCrl server mount)
  sweep : ∀ c time, good c → good (c.mapVault fun v => v.sweep time)
  apply : ∀ c change, good c → good (c.apply change)

theorem Client.isInvariant_true : IsInvariant (fun _ => True) fun _ => True where
  source _ :=
    { list := fun _ h => h, details := fun _ _ h => h, pem := fun _ _ h => h,
      revoke := fun _ _ _ h => h, check := fun _ h => h, invalidate := fun _ h => h,
      shutdown := fun _ h => h }
  readCrl _ _ h := h
  rotateCrl _ _ h := h
  sweep _ _ h := h
  apply _ _ h := h

/--
What the client of a single vault leaves true together with its server.  What a server in memory
holds does not matter.
-/
structure Client.IsKeptByVaults (good : Client → Prop) (quiet : Http.Network → Prop) : Prop where
  inMemory : ∀ v b, good (.inMemory v b) → ∀ now,
    (VaultClient.source MemoryBackend.server now).Keeps fun state => good (.inMemory state.1 state.2)
  backend : ∀ v b after, good (.inMemory v b) → good (.inMemory v after)
  remote : ∀ v server, good (.remote v server) → ∀ now,
    (VaultClient.source server.server now).Keeps fun state =>
      good (.remote state.1 server) ∧ quiet state.2
  network : ∀ v server, good (.remote v server) → server.server.Keeps quiet
  sweep : ∀ c time, good c → good (c.mapVault fun v => v.sweep time)

namespace Client.IsKeptByVaults

variable {good : Client → Prop} {quiet : Http.Network → Prop}

theorem run (h : IsKeptByVaults good quiet) {α : Type}
    {operation : {σ : Type} → CertificateSource σ → Action σ α}
    (hoperation : ∀ {σ : Type} {source : CertificateSource σ} {invariant : σ → Prop},
      source.Keeps invariant → Action.Keeps invariant (operation source)) (now : Nat) :
    Action.Keeps (fun state => good state.1 ∧ quiet state.2) (Client.run now operation) := by
  rintro ⟨c, net⟩ ⟨hc, hnet⟩
  cases c with
  | disabled => exact ⟨hc, hnet⟩
  | scripted script => exact ⟨hc, hnet⟩
  | inMemory v b => exact ⟨hoperation (h.inMemory v b hc now) (v, b) hc, hnet⟩
  | remote v server => exact hoperation (h.remote v server hc now) (v, net) ⟨hc, hnet⟩

theorem onServer (h : IsKeptByVaults good quiet) {α : Type}
    {operation : {σ : Type} → VaultClient → Server σ → Action σ α}
    (hoperation : ∀ {σ : Type} {server : Server σ} {invariant : σ → Prop},
      server.Keeps invariant → ∀ v, Action.Keeps invariant (operation v server)) :
    Action.Keeps (fun state => good state.1 ∧ quiet state.2) (Client.onServer operation) := by
  rintro ⟨c, net⟩ ⟨hc, hnet⟩
  cases c with
  | disabled => exact ⟨hc, hnet⟩
  | scripted script => exact ⟨hc, hnet⟩
  | inMemory v b => exact ⟨h.backend v b _ hc, hnet⟩
  | remote v server => exact ⟨hc, hoperation (h.network v server hc) v net hnet⟩

theorem invalidate (h : IsKeptByVaults good quiet) {c : Client} {net : Http.Network}
    (hc : good c) (hnet : quiet net) : good c.invalidate := by
  cases c with
  | disabled => exact hc
  | scripted script => exact hc
  | inMemory v b => exact (h.inMemory v b hc 0).invalidate (v, b) hc
  | remote v server => exact ((h.remote v server hc 0).invalidate (v, net) ⟨hc, hnet⟩).1

theorem shutdown (h : IsKeptByVaults good quiet) {c : Client} {net : Http.Network}
    (hc : good c) (hnet : quiet net) : good c.shutdown := by
  cases c with
  | disabled => exact hc
  | scripted script => exact hc
  | inMemory v b => exact (h.inMemory v b hc 0).shutdown (v, b) hc
  | remote v server => exact ((h.remote v server hc 0).shutdown (v, net) ⟨hc, hnet⟩).1

theorem isInvariant (h : IsKeptByVaults good quiet) : IsInvariant good quiet where
  source now :=
    { list := h.run (fun hsource => hsource.list) now
      details := fun id => h.run (fun hsource => hsource.details id) now
      pem := fun id => h.run (fun hsource => hsource.pem id) now
      revoke := fun id token => h.run (fun hsource => hsource.revoke id token) now
      check := h.run (fun hsource => hsource.check) now
      invalidate := fun _ hs => ⟨h.invalidate hs.1 hs.2, hs.2⟩
      shutdown := fun _ hs => ⟨h.shutdown hs.1 hs.2, hs.2⟩ }
  readCrl mount := h.onServer fun hserver v => Server.Keeps.onMount (hserver.readCrl mount) v mount
  rotateCrl mount :=
    h.onServer fun hserver v => Server.Keeps.onMount (hserver.rotateCrl mount) v mount
  sweep := h.sweep
  apply c _ hc := by
    cases c with
    | inMemory v b => exact h.backend v b _ hc
    | disabled | scripted _ | remote _ _ => exact hc

end Client.IsKeptByVaults

namespace Fleet

/--
What stands at each place of the fleet, a client or none, has the property of the place, and the
network has another.
-/
structure HoldsAt (good : Nat → Option Client → Prop) (quiet : Http.Network → Prop)
    (fleet : Fleet) : Prop where
  place : ∀ name, good name fleet.clients[name]?
  network : quiet fleet.network

structure Holds (good : Client → Prop) (quiet : Http.Network → Prop) (fleet : Fleet) : Prop where
  clients : ∀ c ∈ fleet.clients, good c
  network : quiet fleet.network

theorem Holds.client {good : Client → Prop} {quiet : Http.Network → Prop} {fleet : Fleet}
    (h : fleet.Holds good quiet) {name : Nat} {c : Client}
    (hclient : fleet.clients[name]? = some c) : good c :=
  h.clients c (List.mem_of_getElem? hclient)

theorem holds_iff_holdsAt {good : Client → Prop} {quiet : Http.Network → Prop} {fleet : Fleet} :
    fleet.Holds good quiet ↔ fleet.HoldsAt (fun _ place => ∀ c ∈ place, good c) quiet := by
  constructor
  · exact fun h => ⟨fun name c hclient => h.client hclient, h.network⟩
  · intro h
    refine ⟨fun c hc => ?_, h.network⟩
    obtain ⟨name, hclient⟩ := List.mem_iff_getElem?.mp hc
    exact h.place name c hclient

/-! ## Places of the fleet -/

variable {good : Nat → Option Client → Prop} {quiet : Http.Network → Prop}

theorem HoldsAt.setClient {fleet : Fleet} (h : fleet.HoldsAt good quiet) {name : Nat}
    {c changed : Client} (hclient : fleet.clients[name]? = some c)
    (hchanged : good name (some changed)) : (fleet.setClient name changed).HoldsAt good quiet := by
  refine ⟨fun other => ?_, h.network⟩
  by_cases hname : other = name
  · subst hname
    obtain ⟨hlt, -⟩ := List.getElem?_eq_some_iff.mp hclient
    rw [Fleet.setClient, List.getElem?_set_self hlt]
    exact hchanged
  · rw [Fleet.setClient, List.getElem?_set_ne (Ne.symm hname)]
    exact h.place other

theorem HoldsAt.record {fleet : Fleet} (h : fleet.HoldsAt good quiet) (name : Nat)
    (step : ClientStep) : (fleet.record name step).HoldsAt good quiet :=
  ⟨h.place, h.network⟩

theorem HoldsAt.modify {fleet : Fleet} (h : fleet.HoldsAt good quiet) {name : Nat}
    {change : Client → Client} (hchange : ∀ c, good name (some c) → good name (some (change c))) :
    (fleet.modify name change).HoldsAt good quiet := by
  unfold Fleet.modify
  cases hclient : fleet.clients[name]? with
  | none => exact h
  | some c => exact h.setClient hclient (hchange c (hclient ▸ h.place name))

theorem keeps_onClient {α : Type} {name : Nat} {action : Action (Client × Http.Network) α}
    (haction : Action.Keeps (fun state => good name (some state.1) ∧ quiet state.2) action) :
    Action.Keeps (HoldsAt good quiet) (onClient name action) := by
  intro fleet h
  unfold onClient
  cases hclient : fleet.clients[name]? with
  | none => exact h
  | some c =>
      obtain ⟨hchanged, hnetwork⟩ :=
        haction (c, fleet.network) ⟨hclient ▸ h.place name, h.network⟩
      exact ⟨(h.setClient hclient hchanged).place, hnetwork⟩

theorem keeps_call {α : Type} {operation : {σ : Type} → CertificateSource σ → Action σ α}
    {name : Nat} (hrun : ∀ now, Action.Keeps
      (fun state => good name (some state.1) ∧ quiet state.2) (Client.run now operation))
    (step : ClientStep) : Action.Keeps (HoldsAt good quiet) (call name step operation) :=
  fun fleet h => keeps_onClient (hrun fleet.clock.wall) _ (h.record name step)

end Fleet

/-- What every call of a client, the passing of time and changes of servers leave true of a fleet. -/
structure Fleet.IsInvariant (P : Fleet → Prop) : Prop where
  source : ∀ name, (Fleet.source name).Keeps P
  listWithin : ∀ deadline name fleet, P fleet → P (Fleet.listWithin deadline name fleet).2
  advance : ∀ fleet millis, P fleet → P (fleet.advance millis)
  readCrl : ∀ name mount, Action.Keeps P (Fleet.readCrl name mount)
  rotateCrl : ∀ name mount, Action.Keeps P (Fleet.rotateCrl name mount)
  command : ∀ fleet name change, P fleet → P (fleet.modify name (Client.apply change))

theorem Fleet.IsInvariant.congr {P Q : Fleet → Prop} (h : IsInvariant P)
    (hiff : ∀ fleet, P fleet ↔ Q fleet) : IsInvariant Q :=
  (funext fun fleet => propext (hiff fleet) : P = Q) ▸ h

namespace Fleet

/-! ## The fleet -/

section HoldsAt

variable {good : Nat → Option Client → Prop} {quiet : Http.Network → Prop}
  (h : ∀ name, Client.IsInvariant (fun c => good name (some c)) quiet)

include h

theorem HoldsAt.advance {fleet : Fleet} (hfleet : fleet.HoldsAt good quiet) (millis : Nat) :
    (fleet.advance millis).HoldsAt good quiet := by
  refine ⟨fun name => ?_, hfleet.network⟩
  have hplace := hfleet.place name
  rw [Fleet.advance, List.getElem?_map]
  cases hclient : fleet.clients[name]? with
  | none =>
      rw [hclient] at hplace
      exact hplace
  | some c =>
      rw [hclient] at hplace
      simp only [Option.map_some, sweepUntil]
      split
      · exact (h name).sweep c _ hplace
      · exact hplace

theorem keeps_listNow (name : Nat) : Action.Keeps (HoldsAt good quiet) (listNow name) :=
  keeps_call (fun now => ((h name).source now).list) _

theorem keeps_source (name : Nat) : (Fleet.source name).Keeps (HoldsAt good quiet) where
  list := fun fleet hfleet => .advance h (keeps_listNow h name fleet hfleet) _
  details id := keeps_call (fun now => ((h name).source now).details id) _
  pem id := keeps_call (fun now => ((h name).source now).pem id) _
  revoke id token := keeps_call (fun now => ((h name).source now).revoke id token) _
  check := keeps_call (fun now => ((h name).source now).check) _
  invalidate := fun _ hfleet => (hfleet.record name .invalidate).modify
    fun c hc => (((h name).source 0).invalidate (c, _) ⟨hc, hfleet.network⟩).1
  shutdown := fun _ hfleet => (hfleet.record name .shutdown).modify
    fun c hc => (((h name).source 0).shutdown (c, _) ⟨hc, hfleet.network⟩).1

theorem isInvariant_holdsAt : IsInvariant (HoldsAt good quiet) where
  source := keeps_source h
  listWithin deadline name fleet hfleet := by
    have hnow := keeps_listNow h name fleet hfleet
    rcases listWithin_cases deadline name fleet with hcase | hcase <;> rw [hcase]
    · exact hnow
    · exact ⟨hfleet.place, hnow.network⟩
  advance _ millis hfleet := hfleet.advance h millis
  readCrl name mount := keeps_onClient ((h name).readCrl mount)
  rotateCrl name mount := keeps_onClient ((h name).rotateCrl mount)
  command _ name change hfleet := hfleet.modify fun c => (h name).apply c change

end HoldsAt

def IsPlaced (good : Client → Prop) (name other : Nat) (place : Option Client) : Prop :=
  other = name → ∃ c, place = some c ∧ good c

end Fleet

namespace Client.IsInvariant

variable {good : Client → Prop}

theorem fleet {quiet : Http.Network → Prop} (h : IsInvariant good quiet) :
    Fleet.IsInvariant (Fleet.Holds good quiet) := by
  refine (Fleet.isInvariant_holdsAt fun _ => ?_).congr fun _ => Fleet.holds_iff_holdsAt.symm
  simpa using h

theorem place (h : IsInvariant good fun _ => True) (name : Nat) :
    Fleet.IsInvariant fun fleet => ∃ c, fleet.clients[name]? = some c ∧ good c := by
  -- Nothing is asked of other places, so their clients keep it in any case.
  have hplaced : ∀ other,
      IsInvariant (fun c => Fleet.IsPlaced good name other (some c)) fun _ => True := by
    intro other
    by_cases hname : other = name
    · simpa [Fleet.IsPlaced, hname] using h
    · simp only [Fleet.IsPlaced, hname, false_implies]
      exact isInvariant_true
  refine (Fleet.isInvariant_holdsAt hplaced).congr fun fleet => ?_
  constructor
  · exact fun hall => hall.place name rfl
  · exact fun hclient => ⟨fun other hname => hname ▸ hclient, trivial⟩

end Client.IsInvariant
end CertCatalog
