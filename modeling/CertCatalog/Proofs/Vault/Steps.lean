import CertCatalog.Proofs.Cache
import CertCatalog.Proofs.Vault.Details
import CertCatalog.Vault.Session
import Mathlib.Algebra.GroupWithZero.Nat
import Mathlib.Data.List.Induction

/-!
# Steps of a session

What one step does to the client, to its server and to the clock.
-/

namespace CertCatalog

open CertCatalog.MemoryBackend

def VaultStep.millis : VaultStep → Nat
  | .sleep millis => millis
  | _ => 0

/-! ## The client -/

namespace VaultClient

/-- The client after a step other than a listing, which depends on nothing else. -/
def next (v : VaultClient) (now : Nat) : VaultStep → VaultClient
  | .client .invalidate => v.invalidate
  | .client .shutdown => v.shutdown
  | .sleep millis =>
      match v.lastSweep? now (now + millis) with
      | some time => v.sweep time
      | none => v
  | _ => v

theorem mounts_next (v : VaultClient) (now : Nat) (step : VaultStep) :
    (v.next now step).mounts = v.mounts := by
  unfold next
  split
  · rfl
  · rfl
  · split <;> rfl
  · rfl

theorem ttl_next (v : VaultClient) (now : Nat) (step : VaultStep) :
    (v.next now step).cache.ttl = v.cache.ttl := by
  unfold next
  split
  · rfl
  · rfl
  · split <;> rfl
  · rfl

theorem entries_next_subset (v : VaultClient) (now : Nat) (step : VaultStep) :
    (v.next now step).cache.table.entries ⊆ v.cache.table.entries := by
  unfold next
  split
  · exact List.nil_subset _
  · exact fun _ h => h
  · split
    · exact fun _ h => List.mem_of_mem_filter h
    · exact fun _ h => h
  · exact fun _ h => h

theorem cache_next (v : VaultClient) (now : Nat) {step : VaultStep}
    (hne : step ≠ .client .invalidate) :
    (v.next now step).cache = v.cache ∨
      ∃ millis time, step = .sleep millis ∧ v.lastSweep? now (now + millis) = some time ∧
        (v.next now step).cache = v.cache.cleanup time := by
  unfold next
  split
  · exact (hne rfl).elim
  · exact .inl rfl
  · next millis =>
      cases hsweep : v.lastSweep? now (now + millis) with
      | none => exact .inl rfl
      | some time => exact .inr ⟨millis, time, rfl, hsweep, rfl⟩
  · exact .inl rfl

theorem cached?_next (v : VaultClient) {now later : Nat} {step : VaultStep}
    (hle : now + step.millis ≤ later) (certificates : List Certificate) :
    (v.next now step).cached? later = some certificates ↔
      step ≠ .client .invalidate ∧ v.cached? later = some certificates := by
  unfold next
  split
  · simp [cached?, invalidate, TtlCache.clear]
  · simp [cached?, shutdown]
  · next millis =>
      cases hsweep : v.lastSweep? now (now + millis) with
      | none => simp
      | some time =>
          have hearlier : time ≤ later := Nat.le_trans (le_of_lastSweep? hsweep) hle
          simp [cached?, sweep, TtlCache.get?_cleanup_of_le v.cache listingKey hearlier]
  · next hinvalidate _ _ => exact ⟨fun h => ⟨hinvalidate, h⟩, And.right⟩

end VaultClient

/-! ## The server -/

namespace MemoryBackend

theorem sameContents_check (b : MemoryBackend) :
    SameContents b (VaultClient.check server b).2 := by
  unfold VaultClient.check
  cases hhealth : b.health with
  | error e =>
      have hanswer : server.health b = (.error e, b) := Prod.ext hhealth rfl
      rw [Action.bind_of_error hanswer]
      exact .refl b
  | ok health =>
      have hanswer : server.health b = (.ok health, b) := Prod.ext hhealth rfl
      rw [Action.bind_of_ok hanswer]
      cases health.initialized with
      | false => exact .refl b
      | true => cases health.sealed <;> exact .refl b

theorem sameContents_rotateCrl (b : MemoryBackend) (mount : String) :
    SameContents b (b.rotateCrl mount).2 := by
  unfold MemoryBackend.rotateCrl
  cases b.failure? mount with
  | some e => exact .refl b
  | none => exact ⟨rfl, rfl, rfl⟩

theorem revoked_subset_markRevoked (b : MemoryBackend) (mount serial : String) :
    b.revoked ⊆ (b.markRevoked mount serial).revoked :=
  fun _ hplace => mem_revoked_markRevoked.mpr (.inr hplace)

theorem revoked_subset_apply (b : MemoryBackend) (change : BackendCommand) :
    b.revoked ⊆ (b.apply change).revoked := by
  cases change with
  | markRevoked mount serial => exact b.revoked_subset_markRevoked mount serial
  | insert | failMount | setHealth | rejectToken | setCrl => exact fun _ hplace => hplace

end MemoryBackend

/-! ## The session -/

namespace VaultSession

theorem step_details (s : VaultSession) (id : String) :
    s.step (.client (.details id)) =
      (.client (.details (s.client.details server id s.backend).1),
        { s with backend := (s.client.details server id s.backend).2 }) := by
  simp only [VaultSession.step, CertificateSource.step, VaultClient.source, VaultClient.onServer,
    withState]

theorem step_pem (s : VaultSession) (id : String) :
    s.step (.client (.pem id)) =
      (.client (.pem (s.client.pem server id s.backend).1),
        { s with backend := (s.client.pem server id s.backend).2 }) := by
  simp only [VaultSession.step, CertificateSource.step, VaultClient.source, VaultClient.onServer,
    withState]

theorem step_list_of_cached {s : VaultSession} {certificates : List Certificate}
    (hcached : s.client.cached? s.now = some certificates) :
    s.step (.client .list) = (.client (.certificates (.ok certificates)), s) := by
  simp only [VaultSession.step, list, hcached]

def IsLate (s : VaultSession) : Prop :=
  s.clockEnd ≤ s.now + s.client.cache.ttl

instance (s : VaultSession) : Decidable s.IsLate :=
  inferInstanceAs (Decidable (_ ≤ _))

theorem fits_iff {s : VaultSession} :
    s.client.cache.fits s.now s.clockEnd = true ↔ ¬s.IsLate := by
  simp [TtlCache.fits, IsLate]

theorem receive_of_fits {s : VaultSession} (hsound : s.isPoisoned = false) (hlate : ¬s.IsLate)
    (certificates : List Certificate) (after : MemoryBackend) :
    s.receive certificates after =
      (.client (.certificates (.ok certificates)),
        s.withState (s.client.keep certificates s.now, after)) := by
  rw [receive, if_neg (Bool.eq_false_iff.mp hsound), if_pos (fits_iff.mpr hlate)]
  rfl

theorem receive_of_late {s : VaultSession} (hsound : s.isPoisoned = false) (hlate : s.IsLate)
    (certificates : List Certificate) (after : MemoryBackend) :
    s.receive certificates after =
      (.crashed,
        { s with client := s.client.invalidate, backend := after, isPoisoned := true }) := by
  rw [receive, if_neg (Bool.eq_false_iff.mp hsound), if_neg fun hfits => fits_iff.mp hfits hlate]

/-- All that a listing can do, with the answer and the session after it. -/
inductive Lists (s : VaultSession) : VaultAnswer × VaultSession → Prop
  | cached {certificates : List Certificate}
      (hcached : s.client.cached? s.now = some certificates) :
      Lists s (.client (.certificates (.ok certificates)), s)
  | failed {e : CatalogError} {after : MemoryBackend} (hnone : s.client.cached? s.now = none)
      (hlisting : s.backend.listing s.client.mounts = .error e)
      (hafter : SameContents s.backend after) :
      Lists s (.client (.certificates (.error e)), { s with backend := after })
  | lost {certificates : List Certificate} {after : MemoryBackend}
      (hnone : s.client.cached? s.now = none)
      (hlisting : s.backend.listing s.client.mounts = .ok certificates)
      (hafter : SameContents s.backend after) (hpoisoned : s.isPoisoned = true) :
      Lists s (.client (.certificates (.ok certificates)), { s with backend := after })
  | crashed {certificates : List Certificate} {after : MemoryBackend}
      (hnone : s.client.cached? s.now = none)
      (hlisting : s.backend.listing s.client.mounts = .ok certificates)
      (hafter : SameContents s.backend after) (hsound : s.isPoisoned = false) (hlate : s.IsLate) :
      Lists s
        (.crashed, { s with client := s.client.invalidate, backend := after, isPoisoned := true })
  | kept {certificates : List Certificate} {after : MemoryBackend}
      (hnone : s.client.cached? s.now = none)
      (hlisting : s.backend.listing s.client.mounts = .ok certificates)
      (hafter : SameContents s.backend after) (hsound : s.isPoisoned = false)
      (hlate : ¬s.IsLate) :
      Lists s (.client (.certificates (.ok certificates)),
        { s with client := s.client.keep certificates s.now, backend := after })

theorem lists_receive {s : VaultSession} {certificates : List Certificate} {after : MemoryBackend}
    (hnone : s.client.cached? s.now = none)
    (hlisting : s.backend.listing s.client.mounts = .ok certificates)
    (hafter : SameContents s.backend after) : s.Lists (s.receive certificates after) := by
  by_cases hpoisoned : s.isPoisoned = true
  · rw [receive, if_pos hpoisoned]
    exact .lost hnone hlisting hafter hpoisoned
  · have hsound : s.isPoisoned = false := Bool.not_eq_true _ ▸ hpoisoned
    by_cases hlate : s.IsLate
    · rw [receive_of_late hsound hlate]
      exact .crashed hnone hlisting hafter hsound hlate
    · rw [receive_of_fits hsound hlate]
      exact .kept hnone hlisting hafter hsound hlate

/-- The inversion lemma of a listing. -/
theorem lists_step (s : VaultSession) : s.Lists (s.step (.client .list)) := by
  cases hcached : s.client.cached? s.now with
  | some certificates =>
      rw [step_list_of_cached hcached]
      exact .cached hcached
  | none =>
      obtain ⟨hlisting, hafter⟩ := freshListing_apply s.backend s.client.mounts
      simp only [VaultSession.step, list, hcached]
      cases hfresh : VaultClient.freshListing server s.client.mounts s.backend with
      | mk outcome after =>
          rw [hfresh] at hlisting hafter
          cases outcome with
          | error e => exact .failed hcached hlisting.symm hafter
          | ok certificates => exact lists_receive hcached hlisting.symm hafter

theorem Lists.client {s : VaultSession} {run : VaultAnswer × VaultSession} (h : s.Lists run) :
    run.2.client = s.client ∨ run.2.client = s.client.invalidate ∨
      ∃ certificates, run.2.client = s.client.keep certificates s.now := by
  cases h with
  | cached | failed | lost => exact .inl rfl
  | crashed => exact .inr (.inl rfl)
  | kept => exact .inr (.inr ⟨_, rfl⟩)

theorem Lists.frame {s : VaultSession} {run : VaultAnswer × VaultSession} (h : s.Lists run) :
    run.2.now = s.now ∧ run.2.clockEnd = s.clockEnd ∧ SameContents s.backend run.2.backend := by
  cases h with
  | cached hcached => exact ⟨rfl, rfl, .refl s.backend⟩
  | failed _ _ hafter | lost _ _ hafter _ | crashed _ _ hafter _ _ | kept _ _ hafter _ _ =>
      exact ⟨rfl, rfl, hafter⟩

theorem Lists.crashed_iff {s : VaultSession} {run : VaultAnswer × VaultSession} (h : s.Lists run) :
    run.1 = .crashed ↔
      s.client.cached? s.now = none ∧
        (∃ certificates, s.backend.listing s.client.mounts = .ok certificates) ∧
        s.isPoisoned = false ∧ s.IsLate := by
  cases h with
  | cached hcached => simp [hcached]
  | failed _ hlisting _ => simp [hlisting]
  | lost _ _ _ hpoisoned => simp [hpoisoned]
  | crashed hnone hlisting _ hsound hlate => simp [hnone, hlisting, hsound, hlate]
  | kept _ _ _ _ hlate => simp [hlate]

theorem Lists.answer_of_uncached {s : VaultSession} {run : VaultAnswer × VaultSession}
    (h : s.Lists run) (hnone : s.client.cached? s.now = none) (hkept : run.1 ≠ .crashed) :
    run.1 = .client (.certificates (s.backend.listing s.client.mounts)) := by
  cases h with
  | cached hcached => cases hnone.symm.trans hcached
  | failed _ hlisting _ | lost _ hlisting _ _ | kept _ hlisting _ _ _ => rw [hlisting]
  | crashed => exact (hkept rfl).elim

theorem Lists.client_of_error {s : VaultSession} {run : VaultAnswer × VaultSession}
    (h : s.Lists run) {e : CatalogError} (herror : run.1 = .client (.certificates (.error e))) :
    run.2.client = s.client := by
  cases h with
  | failed => rfl
  | cached | lost | crashed | kept => cases herror

theorem Lists.isPoisoned_iff {s : VaultSession} {run : VaultAnswer × VaultSession}
    (h : s.Lists run) :
    run.2.isPoisoned = true ↔ s.isPoisoned = true ∨ run.1 = .crashed := by
  cases h <;> simp

/-- While listings expire before the end of the clock, the session takes the steps of its client. -/
theorem step_client_of_fits {s : VaultSession} (hsound : s.isPoisoned = false) (hlate : ¬s.IsLate)
    (step : ClientStep) :
    s.step (.client step) =
      (.client ((VaultClient.source server s.now).step (s.client, s.backend) step).1,
        s.withState ((VaultClient.source server s.now).step (s.client, s.backend) step).2) := by
  cases step with
  | list =>
      simp only [VaultSession.step, list, CertificateSource.step, VaultClient.source,
        VaultClient.list]
      cases s.client.cached? s.now with
      | some certificates => rfl
      | none =>
          cases VaultClient.freshListing server s.client.mounts s.backend with
          | mk outcome after =>
              cases outcome with
              | ok certificates => exact receive_of_fits hsound hlate certificates after
              | error e => rfl
  | details | pem | revoke | check | invalidate | shutdown | cacheSize => rfl

theorem client_step (s : VaultSession) {step : VaultStep} (hne : step ≠ .client .list) :
    (s.step step).2.client = s.client.next s.now step := by
  cases step with
  | client step =>
      cases step with
      | list => exact (hne rfl).elim
      | details id => rw [step_details]; rfl
      | pem id => rw [step_pem]; rfl
      | revoke | check | invalidate | shutdown | cacheSize => rfl
  | readCrl | rotateCrl | command => rfl
  | sleep millis =>
      simp only [VaultSession.step, sleep, VaultClient.next]
      cases s.client.lastSweep? s.now (s.now + millis) <;> rfl

theorem clock_step (s : VaultSession) (step : VaultStep) :
    (s.step step).2.now = s.now + step.millis ∧ (s.step step).2.clockEnd = s.clockEnd := by
  cases step with
  | client step =>
      cases step with
      | list =>
          obtain ⟨hnow, hend, -⟩ := s.lists_step.frame
          exact ⟨hnow, hend⟩
      | details id => rw [step_details]; exact ⟨rfl, rfl⟩
      | pem id => rw [step_pem]; exact ⟨rfl, rfl⟩
      | revoke | check | invalidate | shutdown | cacheSize => exact ⟨rfl, rfl⟩
  | readCrl | rotateCrl | command => exact ⟨rfl, rfl⟩
  | sleep millis =>
      simp only [VaultSession.step, sleep, VaultStep.millis]
      split <;> exact ⟨rfl, rfl⟩

theorem now_step (s : VaultSession) (step : VaultStep) :
    (s.step step).2.now = s.now + step.millis :=
  (s.clock_step step).1

theorem clockEnd_step (s : VaultSession) (step : VaultStep) :
    (s.step step).2.clockEnd = s.clockEnd :=
  (s.clock_step step).2

theorem isPoisoned_step (s : VaultSession) (step : VaultStep) :
    (s.step step).2.isPoisoned = true ↔ s.isPoisoned = true ∨ (s.step step).1 = .crashed := by
  cases step with
  | client step =>
      cases step with
      | list => exact s.lists_step.isPoisoned_iff
      | details id => simp [step_details]
      | pem id => simp [step_pem]
      | revoke | check | invalidate | shutdown | cacheSize => simp [VaultSession.step, withState]
  | readCrl | rotateCrl | command => simp [VaultSession.step]
  | sleep millis =>
      simp only [VaultSession.step, sleep]
      split <;> simp

theorem sound_of_step {s : VaultSession} {step : VaultStep}
    (hsound : (s.step step).2.isPoisoned = false) :
    s.isPoisoned = false ∧ (s.step step).1 ≠ .crashed := by
  rw [← Bool.not_eq_true, isPoisoned_step, not_or, Bool.not_eq_true] at hsound
  exact hsound

theorem eq_list_of_crashed {s : VaultSession} {step : VaultStep}
    (hcrashed : (s.step step).1 = .crashed) : step = .client .list := by
  cases step with
  | client step =>
      cases step with
      | list => rfl
      | details id => simp [step_details] at hcrashed
      | pem id => simp [step_pem] at hcrashed
      | revoke | check | invalidate | shutdown | cacheSize => cases hcrashed
  | readCrl | rotateCrl | command | sleep => cases hcrashed

theorem isLate_of_crashed {s : VaultSession} {step : VaultStep}
    (hcrashed : (s.step step).1 = .crashed) : s.IsLate := by
  obtain rfl := eq_list_of_crashed hcrashed
  exact (s.lists_step.crashed_iff.mp hcrashed).2.2.2

theorem now_le_run (s : VaultSession) (steps : List VaultStep) : s.now ≤ (s.run steps).now := by
  induction steps generalizing s with
  | nil => exact Nat.le_refl _
  | cons step rest ih =>
      refine Nat.le_trans ?_ (ih (s.step step).2)
      rw [now_step]
      exact Nat.le_add_right _ _

theorem mounts_step (s : VaultSession) (step : VaultStep) :
    (s.step step).2.client.mounts = s.client.mounts := by
  by_cases hlist : step = .client .list
  · subst hlist
    rcases s.lists_step.client with hclient | hclient | ⟨certificates, hclient⟩ <;>
      rw [hclient] <;> rfl
  · rw [client_step s hlist, VaultClient.mounts_next]

theorem ttl_step (s : VaultSession) (step : VaultStep) :
    (s.step step).2.client.cache.ttl = s.client.cache.ttl := by
  by_cases hlist : step = .client .list
  · subst hlist
    rcases s.lists_step.client with hclient | hclient | ⟨certificates, hclient⟩ <;>
      rw [hclient] <;> rfl
  · rw [client_step s hlist, VaultClient.ttl_next]

/-- Steps that do not change what the server holds; a revocation may be one that changes it. -/
def isQuiet : VaultStep → Bool
  | .command _ => false
  | .client (.revoke _ _) => false
  | _ => true

theorem sameContents_step (s : VaultSession) {step : VaultStep} (hquiet : isQuiet step = true) :
    SameContents s.backend (s.step step).2.backend := by
  cases step with
  | client step =>
      cases step with
      | list => exact s.lists_step.frame.2.2
      | details id =>
          rw [step_details]
          dsimp only
          exact (VaultClient.details_apply s.client id s.backend).2
      | pem id =>
          rw [step_pem]
          dsimp only
          exact (VaultClient.pem_apply s.client id s.backend).2
      | check => exact sameContents_check s.backend
      | invalidate | shutdown | cacheSize => exact .refl s.backend
      | revoke id token => cases hquiet
  | readCrl mount =>
      simp only [VaultSession.step, VaultClient.readCrl, VaultClient.onMount]
      split <;> exact .refl s.backend
  | rotateCrl mount =>
      simp only [VaultSession.step, VaultClient.rotateCrl, VaultClient.onMount]
      split
      · exact sameContents_rotateCrl s.backend mount
      · exact .refl s.backend
  | command change => cases hquiet
  | sleep millis =>
      simp only [VaultSession.step, sleep]
      split <;> exact .refl s.backend

end VaultSession

/-! ## Runs -/

/-- All that a session with a new client depends on but the steps. -/
structure VaultSetup where
  vaultId : String
  mounts : List String
  ttl : Nat
  sweepEvery : Option Nat
  backend : MemoryBackend
  clockEnd : Nat

namespace VaultSetup

def client (c : VaultSetup) : VaultClient :=
  .start c.vaultId c.mounts c.ttl c.sweepEvery

def after (c : VaultSetup) (steps : List VaultStep) : VaultSession :=
  (VaultSession.start c.client c.backend c.clockEnd).run steps

theorem after_concat (c : VaultSetup) (steps : List VaultStep) (step : VaultStep) :
    c.after (steps ++ [step]) = ((c.after steps).step step).2 := by
  simp [after, VaultSession.run]

theorem after_append (c : VaultSetup) (steps more : List VaultStep) :
    c.after (steps ++ more) = (c.after steps).run more := by
  simp [after, VaultSession.run]

theorem now_after (c : VaultSetup) (steps : List VaultStep) :
    (c.after steps).now = (steps.map VaultStep.millis).sum := by
  induction steps using List.reverseRecOn with
  | nil => rfl
  | append_singleton steps step ih =>
      rw [after_concat, VaultSession.now_step, ih]
      simp

theorem mounts_after (c : VaultSetup) (steps : List VaultStep) :
    (c.after steps).client.mounts = c.mounts := by
  induction steps using List.reverseRecOn with
  | nil => rfl
  | append_singleton steps step ih => rw [after_concat, VaultSession.mounts_step, ih]

theorem ttl_after (c : VaultSetup) (steps : List VaultStep) :
    (c.after steps).client.cache.ttl = c.ttl := by
  induction steps using List.reverseRecOn with
  | nil => rfl
  | append_singleton steps step ih => rw [after_concat, VaultSession.ttl_step, ih]

theorem clockEnd_after (c : VaultSetup) (steps : List VaultStep) :
    (c.after steps).clockEnd = c.clockEnd := by
  induction steps using List.reverseRecOn with
  | nil => rfl
  | append_singleton steps step ih => rw [after_concat, VaultSession.clockEnd_step, ih]

end VaultSetup
end CertCatalog
