import CertCatalog.Proofs.Vault.Invariants
import CertCatalog.Proofs.Vault.Steps

/-!
# Listings in the course of a session

A listing may come from the cache, and what is cached may be older than the last change of the
server.  Through all of that a listed certificate was made of a record of one of the mounts.
-/

namespace CertCatalog

open CertCatalog.CertificateId CertCatalog.MemoryBackend

/-- The listing of some server makes this certificate of the record in the given place. -/
def Certificate.IsMadeOf (c : Certificate) (mount serial : String) : Prop :=
  ∃ b : MemoryBackend, serial ∈ b.serialsOf mount ∧ b.certificate? mount serial = some c

theorem Certificate.IsMadeOf.id_eq {c : Certificate} {mount serial : String}
    (hmade : c.IsMadeOf mount serial) : c.id = ofMount mount serial := by
  obtain ⟨b, -, hcertificate⟩ := hmade
  obtain ⟨pem, attributes, -, rfl⟩ := certificate?_eq_some.mp hcertificate
  rw [VaultClient.certificateOf_eq]
  rfl

theorem isMadeOf_sample (mount serial : String) :
    (sampleCertificate (ofMount mount serial)).IsMadeOf mount serial :=
  ⟨sampleServer [(mount, serial)], by simp [serialsOf_sample], certificate?_sample mount serial⟩

/-! ## What is cached -/

namespace VaultClient

def KeepsRecords (v : VaultClient) : Prop :=
  ∀ entry ∈ v.cache.table.entries, ∀ c ∈ entry.2.value,
    ∃ mount ∈ v.mounts, ∃ serial, c.IsMadeOf mount serial

theorem keepsRecords_iff {v : VaultClient} :
    v.KeepsRecords ↔ v.CachesOnly fun certificates =>
      ∀ c ∈ certificates, ∃ mount ∈ v.mounts, ∃ serial, c.IsMadeOf mount serial :=
  Iff.rfl

theorem isMadeOf_of_listing {b : MemoryBackend} {mounts : List String}
    {certificates : List Certificate} (hok : b.listing mounts = .ok certificates) :
    ∀ c ∈ certificates, ∃ mount ∈ mounts, ∃ serial, c.IsMadeOf mount serial := by
  intro c hc
  obtain ⟨mount, hmount, serial, hserial, pem, attributes, hread, hmade⟩ :=
    exists_record_of_listing hok hc
  exact ⟨mount, hmount, serial, b, hserial,
    certificate?_eq_some.mpr ⟨pem, attributes, hread, hmade⟩⟩

end VaultClient

/-! ## Sessions -/

namespace VaultSession

/-- The client still has these mounts, and its cache holds nothing but what was made of records. -/
structure IsOver (s : VaultSession) (mounts : List String) : Prop where
  mounts_eq : s.client.mounts = mounts
  keeps : s.client.KeepsRecords

theorem isOver_start (vaultId : String) (mounts : List String) (ttl : Nat)
    (sweepEvery : Option Nat) (b : MemoryBackend) (clockEnd : Nat) :
    (start (.start vaultId mounts ttl sweepEvery) b clockEnd).IsOver mounts :=
  ⟨rfl, VaultClient.keepsRecords_iff.mpr (VaultClient.cachesOnly_start _ _ _ _ _)⟩

theorem IsOver.lists {s : VaultSession} {mounts : List String} (h : s.IsOver mounts)
    {run : VaultAnswer × VaultSession} (hrun : s.Lists run) :
    (∀ certificates, run.1 = .client (.certificates (.ok certificates)) →
        ∀ c ∈ certificates, ∃ mount ∈ mounts, ∃ serial, c.IsMadeOf mount serial) ∧
      run.2.IsOver mounts := by
  obtain ⟨rfl, hkeeps⟩ := h
  have hcaches := VaultClient.keepsRecords_iff.mp hkeeps
  cases hrun with
  | cached hcached =>
      refine ⟨fun certificates hok => ?_, rfl, hkeeps⟩
      cases hok
      exact hcaches.cached hcached
  | failed => exact ⟨nofun, rfl, hkeeps⟩
  | lost _ hlisting =>
      refine ⟨fun certificates hok => ?_, rfl, hkeeps⟩
      cases hok
      exact VaultClient.isMadeOf_of_listing hlisting
  | crashed =>
      exact ⟨nofun, rfl, VaultClient.keepsRecords_iff.mpr (VaultClient.CachesOnly.invalidate _ _)⟩
  | kept _ hlisting =>
      have hmade := VaultClient.isMadeOf_of_listing hlisting
      refine ⟨fun certificates hok => ?_, rfl,
        VaultClient.keepsRecords_iff.mpr (hcaches.keep hmade s.now)⟩
      cases hok
      exact hmade

theorem IsOver.step {s : VaultSession} {mounts : List String} (h : s.IsOver mounts)
    (step : VaultStep) : (s.step step).2.IsOver mounts := by
  by_cases hlist : step = .client .list
  · subst hlist
    exact (h.lists s.lists_step).2
  · refine ⟨(mounts_step s step).trans h.mounts_eq, ?_⟩
    rw [client_step s hlist]
    intro entry hentry
    rw [VaultClient.mounts_next]
    exact h.keeps entry (VaultClient.entries_next_subset s.client s.now step hentry)

theorem IsOver.run {s : VaultSession} {mounts : List String} (h : s.IsOver mounts)
    (steps : List VaultStep) : (s.run steps).IsOver mounts := by
  induction steps generalizing s with
  | nil => exact h
  | cons step rest ih => exact ih (h.step step)

end VaultSession
end CertCatalog
