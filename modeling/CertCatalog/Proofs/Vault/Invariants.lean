import CertCatalog.Proofs.Action
import CertCatalog.Vault.Client

/-!
# Invariants of servers and clients

What all operations of a server leave true of its state, all operations of a client leave true as
well, since a client does nothing to a server but call it.
-/

namespace CertCatalog

variable {σ : Type}

structure Server.Keeps (server : Server σ) (invariant : σ → Prop) : Prop where
  listSerials : ∀ mount, Action.Keeps invariant (server.listSerials mount)
  listRevoked : ∀ mount, Action.Keeps invariant (server.listRevoked mount)
  readRecord : ∀ mount serial, Action.Keeps invariant (server.readRecord mount serial)
  revoke : ∀ mount serial token, Action.Keeps invariant (server.revoke mount serial token)
  health : Action.Keeps invariant server.health
  checkToken : Action.Keeps invariant server.checkToken
  readCrl : ∀ mount, Action.Keeps invariant (server.readCrl mount)
  rotateCrl : ∀ mount, Action.Keeps invariant (server.rotateCrl mount)

structure CertificateSource.Keeps (source : CertificateSource σ) (invariant : σ → Prop) : Prop where
  list : Action.Keeps invariant source.list
  details : ∀ id, Action.Keeps invariant (source.details id)
  pem : ∀ id, Action.Keeps invariant (source.pem id)
  revoke : ∀ id token, Action.Keeps invariant (source.revoke id token)
  check : Action.Keeps invariant source.check
  invalidate : ∀ s, invariant s → invariant (source.invalidate s)
  shutdown : ∀ s, invariant s → invariant (source.shutdown s)

theorem CertificateSource.Keeps.step {source : CertificateSource σ} {invariant : σ → Prop}
    (h : source.Keeps invariant) {s : σ} (hs : invariant s) (step : ClientStep) :
    invariant (source.step s step).2 := by
  cases step with
  | list => exact h.list s hs
  | details id => exact h.details id s hs
  | pem id => exact h.pem id s hs
  | revoke id token => exact h.revoke id token s hs
  | check => exact h.check s hs
  | invalidate => exact h.invalidate s hs
  | shutdown => exact h.shutdown s hs
  | cacheSize => exact hs

/-! ## What a client does to its server -/

theorem VaultClient.keeps_check {server : Server σ} {invariant : σ → Prop}
    (hhealth : Action.Keeps invariant server.health)
    (htoken : Action.Keeps invariant server.checkToken) :
    Action.Keeps invariant (check server) := by
  refine hhealth.bind fun health => ?_
  split
  · exact .answer invariant _
  · split
    · exact .answer invariant _
    · exact htoken

namespace Server.Keeps

open CertCatalog.VaultClient

variable {server : Server σ} {invariant : σ → Prop}

theorem readPem (h : server.Keeps invariant) (mount serial : String) :
    Action.Keeps invariant (readPem server mount serial) := by
  refine (h.readRecord mount serial).bind fun record => ?_
  cases record <;> exact .answer invariant _

theorem readAttributes (h : server.Keeps invariant) (mount serial : String) :
    Action.Keeps invariant (readAttributes server mount serial) := by
  refine (h.readPem mount serial).bind fun pem => ?_
  cases Attributes.ofPem pem <;> exact .answer invariant _

theorem listMount (h : server.Keeps invariant) (mount : String) :
    Action.Keeps invariant (listMount server mount) :=
  (h.listSerials mount).bind fun serials => (h.listRevoked mount).bind fun _ _ hs =>
    Action.Keeps.attemptAll (h.readAttributes mount) serials hs

theorem freshListing (h : server.Keeps invariant) (mounts : List String) :
    Action.Keeps invariant (freshListing server mounts) :=
  fun _ hs => Action.Keeps.attemptAll h.listMount mounts hs

theorem details (h : server.Keeps invariant) (v : VaultClient) (id : String) :
    Action.Keeps invariant (v.details server id) :=
  (Action.Keeps.answer invariant _).bind fun place =>
    (h.readAttributes place.1 place.2).bind fun _ =>
      (h.listRevoked place.1).bind fun _ => .answer invariant _

theorem pem (h : server.Keeps invariant) (v : VaultClient) (id : String) :
    Action.Keeps invariant (v.pem server id) :=
  (Action.Keeps.answer invariant _).bind fun place =>
    (h.readPem place.1 place.2).bind fun _ => .answer invariant _

theorem revokeCertificate (h : server.Keeps invariant) (v : VaultClient) (id token : String) :
    Action.Keeps invariant (v.revoke server id token) := by
  unfold VaultClient.revoke
  split
  · exact .answer invariant _
  · exact (Action.Keeps.answer invariant _).bind fun place => h.revoke place.1 place.2 _

theorem check (h : server.Keeps invariant) : Action.Keeps invariant (check server) :=
  keeps_check h.health h.checkToken

theorem onMount {α : Type} {action : Action σ α} (haction : Action.Keeps invariant action)
    (v : VaultClient) (mount : String) : Action.Keeps invariant (v.onMount mount action) := by
  unfold VaultClient.onMount
  split
  · exact haction
  · exact .answer invariant _

theorem onServer {α : Type} {action : VaultClient → Action σ α}
    (haction : ∀ v, Action.Keeps invariant (action v)) (good : VaultClient → Prop) :
    Action.Keeps (fun state => good state.1 ∧ invariant state.2) (onServer action) := by
  rintro ⟨v, s⟩ ⟨hv, hs⟩
  exact ⟨hv, haction v s hs⟩

theorem list (h : server.Keeps invariant) {good : VaultClient → Prop} {now : Nat}
    (hlist : ∀ v s, good v → invariant s → good (VaultClient.list server now (v, s)).2.1) :
    Action.Keeps (fun state => good state.1 ∧ invariant state.2) (VaultClient.list server now) := by
  rintro ⟨v, s⟩ ⟨hv, hs⟩
  refine ⟨hlist v s hv hs, ?_⟩
  have hfresh := h.freshListing v.mounts s hs
  unfold VaultClient.list
  dsimp only
  split
  · exact hs
  · split
    · next hrun => exact (congrArg Prod.snd hrun) ▸ hfresh
    · next hrun => exact (congrArg Prod.snd hrun) ▸ hfresh

/-- A client leaves what its server leaves and what a listing leaves of the client itself. -/
theorem source (h : server.Keeps invariant) {good : VaultClient → Prop} {now : Nat}
    (hlist : ∀ v s, good v → invariant s → good (VaultClient.list server now (v, s)).2.1)
    (hinvalidate : ∀ v, good v → good v.invalidate) (hshutdown : ∀ v, good v → good v.shutdown) :
    (VaultClient.source server now).Keeps fun state => good state.1 ∧ invariant state.2 where
  list := h.list hlist
  details id := onServer (fun v => h.details v id) good
  pem id := onServer (fun v => h.pem v id) good
  revoke id token := onServer (fun v => h.revokeCertificate v id token) good
  check := onServer (fun _ => h.check) good
  invalidate := by
    rintro ⟨v, s⟩ ⟨hv, hs⟩
    exact ⟨hinvalidate v hv, hs⟩
  shutdown := by
    rintro ⟨v, s⟩ ⟨hv, hs⟩
    exact ⟨hshutdown v hv, hs⟩

end Server.Keeps

/-! ## What is cached -/

namespace VaultClient

variable {P : List Certificate → Prop} {v : VaultClient}

/-- All listings in the cache, expired or not, have the property. -/
def CachesOnly (v : VaultClient) (P : List Certificate → Prop) : Prop :=
  ∀ entry ∈ v.cache.table.entries, P entry.2.value

theorem cachesOnly_start (vaultId : String) (mounts : List String) (ttl : Nat)
    (sweepEvery : Option Nat) (P : List Certificate → Prop) :
    (start vaultId mounts ttl sweepEvery).CachesOnly P := by
  intro entry hentry
  cases hentry

theorem CachesOnly.cached (h : v.CachesOnly P) {now : Nat} {certificates : List Certificate}
    (hcached : v.cached? now = some certificates) : P certificates := by
  unfold cached? TtlCache.get? at hcached
  split at hcached
  · next entry hfound =>
      split at hcached
      · contradiction
      · cases hcached
        obtain ⟨pair, hpair, rfl⟩ := Option.map_eq_some_iff.mp hfound
        exact h pair (List.mem_of_find?_eq_some hpair)
  · contradiction

theorem CachesOnly.keep (h : v.CachesOnly P) {certificates : List Certificate}
    (hkept : P certificates) (now : Nat) : (v.keep certificates now).CachesOnly P := by
  intro entry hentry
  rcases List.mem_cons.mp hentry with rfl | hold
  · exact hkept
  · exact h entry (List.mem_of_mem_filter hold)

theorem CachesOnly.sweep (h : v.CachesOnly P) (now : Nat) : (v.sweep now).CachesOnly P :=
  fun entry hentry => h entry (List.mem_of_mem_filter hentry)

theorem CachesOnly.invalidate (v : VaultClient) (P : List Certificate → Prop) :
    v.invalidate.CachesOnly P := by
  intro entry hentry
  cases hentry

theorem CachesOnly.list (h : v.CachesOnly P) {server : Server σ} {s : σ}
    (hfresh : ∀ certificates, (freshListing server v.mounts s).1 = .ok certificates →
      P certificates) (now : Nat) :
    (∀ certificates, (VaultClient.list server now (v, s)).1 = .ok certificates →
        P certificates) ∧
      (VaultClient.list server now (v, s)).2.1.mounts = v.mounts ∧
      (VaultClient.list server now (v, s)).2.1.CachesOnly P := by
  unfold VaultClient.list
  cases hcached : v.cached? now with
  | some kept =>
      simp only [hcached]
      refine ⟨fun certificates hok => ?_, trivial, h⟩
      cases hok
      exact h.cached hcached
  | none =>
      simp only [hcached]
      cases hrun : freshListing server v.mounts s with
      | mk outcome after =>
          rw [hrun] at hfresh
          cases outcome with
          | error e => exact ⟨fun _ hok => by contradiction, rfl, h⟩
          | ok fresh =>
              refine ⟨fun certificates hok => ?_, rfl, h.keep (hfresh fresh rfl) now⟩
              cases hok
              exact hfresh fresh rfl

end VaultClient
end CertCatalog
