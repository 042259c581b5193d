import CertCatalog.Proofs.Fleet.Invariants

/-!
# What clients of single vaults keep

Whatever is asked of the client of a single vault, it changes in four ways only: it keeps a listing,
drops what is cached, is shut down or is swept.  So its vault, its mounts and its lifetimes stay, and
it is never started again.
-/

namespace CertCatalog

variable {σ : Type}

/-! ## One vault -/

namespace VaultClient

/-- Every change of a client leaves the property. -/
structure Lasts (Q : VaultClient → Prop) : Prop where
  keep : ∀ v certificates now, Q v → Q (v.keep certificates now)
  invalidate : ∀ v, Q v → Q v.invalidate
  shutdown : ∀ v, Q v → Q v.shutdown
  sweep : ∀ v time, Q v → Q (v.sweep time)

variable {Q : VaultClient → Prop}

theorem Lasts.list (h : Lasts Q) (server : Server σ) (now : Nat) {v : VaultClient} (s : σ)
    (hv : Q v) : Q (VaultClient.list server now (v, s)).2.1 := by
  unfold VaultClient.list
  cases hcached : v.cached? now with
  | some certificates => simpa only [hcached] using hv
  | none =>
      simp only [hcached]
      cases freshListing server v.mounts s with
      | mk outcome after =>
          cases outcome with
          | error e => exact hv
          | ok certificates => exact h.keep v certificates now hv

theorem Lasts.source (h : Lasts Q) {server : Server σ} {invariant : σ → Prop}
    (hserver : server.Keeps invariant) (now : Nat) :
    (source server now).Keeps fun state => Q state.1 ∧ invariant state.2 :=
  hserver.source (fun _ s hv _ => h.list server now s hv) h.invalidate h.shutdown

theorem Lasts.const_and (h : Lasts Q) (p : Prop) : Lasts fun v => p ∧ Q v where
  keep v certificates now hv := ⟨hv.1, h.keep v certificates now hv.2⟩
  invalidate v hv := ⟨hv.1, h.invalidate v hv.2⟩
  shutdown v hv := ⟨hv.1, h.shutdown v hv.2⟩
  sweep v time hv := ⟨hv.1, h.sweep v time hv.2⟩

structure Continues (v w : VaultClient) : Prop where
  vaultId_eq : w.vaultId = v.vaultId
  mounts_eq : w.mounts = v.mounts
  ttl_eq : w.cache.ttl = v.cache.ttl
  sweepEvery_eq : w.sweepEvery = v.sweepEvery
  stays_shutDown : v.isShutDown = true → w.isShutDown = true

theorem Continues.refl (v : VaultClient) : v.Continues v :=
  ⟨rfl, rfl, rfl, rfl, id⟩

theorem lasts_continues (v : VaultClient) : Lasts v.Continues where
  keep _ _ _ h := ⟨h.vaultId_eq, h.mounts_eq, h.ttl_eq, h.sweepEvery_eq, h.stays_shutDown⟩
  invalidate _ h := ⟨h.vaultId_eq, h.mounts_eq, h.ttl_eq, h.sweepEvery_eq, h.stays_shutDown⟩
  shutdown _ h := ⟨h.vaultId_eq, h.mounts_eq, h.ttl_eq, h.sweepEvery_eq, fun _ => rfl⟩
  sweep _ _ h := ⟨h.vaultId_eq, h.mounts_eq, h.ttl_eq, h.sweepEvery_eq, h.stays_shutDown⟩

end VaultClient

theorem Server.keeps_true (server : Server σ) : server.Keeps fun _ => True where
  listSerials _ _ h := h
  listRevoked _ _ h := h
  readRecord _ _ _ h := h
  revoke _ _ _ _ h := h
  health _ h := h
  checkToken _ h := h
  readCrl _ _ h := h
  rotateCrl _ _ h := h

/-! ## Clients of fleets -/

namespace Client

def IsVault (Q : Option Remote → VaultClient → Prop) : Client → Prop
  | .disabled | .scripted _ => False
  | .inMemory v _ => Q none v
  | .remote v server => Q (some server) v

variable {Q : Option Remote → VaultClient → Prop}

theorem isKeptByVaults_isVault (h : ∀ server?, VaultClient.Lasts (Q server?)) :
    IsKeptByVaults (IsVault Q) fun _ => True where
  inMemory _ _ _ now := by
    simpa only [IsVault, and_true] using (h none).source MemoryBackend.server.keeps_true now
  backend _ _ _ hc := hc
  remote _ server _ now := (h (some server)).source server.server.keeps_true now
  network _ server _ := server.server.keeps_true
  sweep c time hc := by
    cases c with
    | disabled => exact hc.elim
    | scripted script => exact hc.elim
    | inMemory v b => exact (h none).sweep v time hc
    | remote v server => exact (h (some server)).sweep v time hc

theorem IsVault.exists_vault? {Q : VaultClient → Prop} {c : Client} (h : c.IsVault fun _ => Q) :
    ∃ v, c.vault? = some v ∧ Q v := by
  cases c with
  | disabled => exact h.elim
  | scripted script => exact h.elim
  | inMemory v b => exact ⟨v, rfl, h⟩
  | remote v server => exact ⟨v, rfl, h⟩

end Client

theorem Fleet.isInvariant_remote (name : Nat) (v : VaultClient) (server : Remote) :
    IsInvariant fun fleet =>
      ∃ w, fleet.clients[name]? = some (.remote w server) ∧ v.Continues w := by
  have hkept := Client.isKeptByVaults_isVault fun server? =>
    v.lasts_continues.const_and (server? = some server)
  refine (hkept.isInvariant.place name).congr fun fleet => ?_
  constructor
  · rintro ⟨c, hclient, hc⟩
    cases c with
    | disabled => exact hc.elim
    | scripted script => exact hc.elim
    | inMemory w b => exact absurd hc.1 nofun
    | remote w other =>
        obtain ⟨hserver, hcontinues⟩ := hc
        cases hserver
        exact ⟨w, hclient, hcontinues⟩
  · rintro ⟨w, hclient, hcontinues⟩
    exact ⟨_, hclient, rfl, hcontinues⟩

end CertCatalog
