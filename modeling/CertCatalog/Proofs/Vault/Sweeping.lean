import CertCatalog.Proofs.Vault.ListingCache

/-!
# Sweeps and shutdowns

A sweep takes away what could not be found any more, and a shutdown ends the sweeps.  Two sessions
that differ in nothing but their sweeps and shutdowns answer alike and call their servers alike.
-/

namespace CertCatalog

open CertCatalog.MemoryBackend

variable {σ α : Type}

namespace VaultStep

def isShutdown : VaultStep → Bool
  | .client .shutdown => true
  | _ => false

/-- All steps but shutdowns and those that count what is kept. -/
def isObserved : VaultStep → Bool
  | .client .shutdown => false
  | .client .cacheSize => false
  | _ => true

end VaultStep

/-! ## Clients that agree -/

namespace VaultClient

/-- The same mounts, and caches that differ in expired listings only. -/
structure Agrees (now : Nat) (v w : VaultClient) : Prop where
  mounts_eq : v.mounts = w.mounts
  cache : v.cache.Agrees now w.cache

namespace Agrees

variable {v w : VaultClient} {now : Nat}

theorem refl (now : Nat) (v : VaultClient) : Agrees now v v :=
  ⟨rfl, .refl now v.cache⟩

theorem cached?_eq (h : Agrees now v w) : v.cached? now = w.cached? now :=
  h.cache.get?_eq listingKey

theorem keep (h : Agrees now v w) (certificates : List Certificate) :
    Agrees now (v.keep certificates now) (w.keep certificates now) :=
  ⟨h.mounts_eq, h.cache.insert listingKey certificates⟩

theorem sleep (h : Agrees now v w) (millis : Nat) :
    Agrees (now + millis) (v.next now (.sleep millis)) (w.next now (.sleep millis)) := by
  have hswept : ∀ u : VaultClient,
      (u.next now (.sleep millis)).cache.Agrees (now + millis) u.cache := by
    intro u
    simp only [next]
    cases hsweep : u.lastSweep? now (now + millis) with
    | none => exact .refl _ _
    | some time => exact .cleanup_left u.cache (le_of_lastSweep? hsweep)
  refine ⟨?_, (hswept v).trans ((h.cache.of_le (Nat.le_add_right _ _)).trans (hswept w).symm)⟩
  rw [mounts_next, mounts_next, h.mounts_eq]

theorem onMount_eq (h : Agrees now v w) (mount : String) (action : Action σ α) :
    v.onMount mount action = w.onMount mount action := by
  simp only [onMount, h.mounts_eq]

variable (server : Server σ) (s : σ)

theorem list (h : Agrees now v w) :
    (list server now (v, s)).1 = (list server now (w, s)).1 ∧
      (list server now (v, s)).2.2 = (list server now (w, s)).2.2 ∧
      Agrees now (list server now (v, s)).2.1 (list server now (w, s)).2.1 := by
  simp only [VaultClient.list, h.cached?_eq, h.mounts_eq]
  cases w.cached? now with
  | some certificates => exact ⟨rfl, rfl, h⟩
  | none =>
      cases freshListing server w.mounts s with
      | mk outcome after =>
          cases outcome with
          | ok certificates => exact ⟨rfl, rfl, h.keep certificates⟩
          | error e => exact ⟨rfl, rfl, h⟩

/-- Only the number of listings that are kept can tell the clients apart. -/
theorem step (h : Agrees now v w) (step : ClientStep) :
    (step ≠ .cacheSize →
        ((source server now).step (v, s) step).1 = ((source server now).step (w, s) step).1) ∧
      ((source server now).step (v, s) step).2.2 = ((source server now).step (w, s) step).2.2 ∧
      Agrees now ((source server now).step (v, s) step).2.1
        ((source server now).step (w, s) step).2.1 := by
  have hresolve : v.resolve = w.resolve := by
    funext id
    rw [resolve, resolve, h.mounts_eq]
  cases step with
  | list =>
      obtain ⟨houtcome, hserver, hclient⟩ := h.list server s
      exact ⟨fun _ => congrArg ClientAnswer.certificates houtcome, hserver, hclient⟩
  | details id =>
      simp only [CertificateSource.step, source, onServer, details, hresolve]
      exact ⟨fun _ => trivial, trivial, h⟩
  | pem id =>
      simp only [CertificateSource.step, source, onServer, VaultClient.pem, hresolve]
      exact ⟨fun _ => trivial, trivial, h⟩
  | revoke id token =>
      simp only [CertificateSource.step, source, onServer, revoke, hresolve]
      exact ⟨fun _ => trivial, trivial, h⟩
  | check => exact ⟨fun _ => rfl, rfl, h⟩
  | invalidate => exact ⟨fun _ => rfl, rfl, h.mounts_eq, h.cache.clear⟩
  | shutdown => exact ⟨fun _ => rfl, rfl, h.mounts_eq, h.cache⟩
  | cacheSize => exact ⟨fun hne => (hne rfl).elim, rfl, h⟩

end Agrees

theorem isShutDown_next (v : VaultClient) (now : Nat) (step : VaultStep) :
    (v.next now step).isShutDown = (v.isShutDown || step.isShutdown) := by
  cases step with
  | client step =>
      cases step with
      | shutdown => exact (Bool.or_true _).symm
      | list | details | pem | revoke | check | invalidate | cacheSize =>
          exact (Bool.or_false _).symm
  | readCrl | rotateCrl | command => exact (Bool.or_false _).symm
  | sleep millis =>
      simp only [next]
      split <;> exact (Bool.or_false _).symm

end VaultClient

/-! ## Sessions that agree -/

namespace VaultSession

/-- A step with all that can be seen of it: its answer and its calls. -/
def observe (s : VaultSession) (step : VaultStep) :
    (VaultAnswer × List ServerCall) × VaultSession :=
  (((s.step step).1, s.calls step), (s.step step).2)

structure Agrees (s t : VaultSession) : Prop where
  backend_eq : s.backend = t.backend
  now_eq : s.now = t.now
  clockEnd_eq : s.clockEnd = t.clockEnd
  isPoisoned_eq : s.isPoisoned = t.isPoisoned
  client : s.client.Agrees s.now t.client

theorem Agrees.refl (s : VaultSession) : Agrees s s :=
  ⟨rfl, rfl, rfl, rfl, .refl s.now s.client⟩

theorem Agrees.of_common {s t u : VaultSession} (hs : Agrees s u) (ht : Agrees t u) :
    Agrees s t := by
  have hnow : s.now = t.now := hs.now_eq.trans ht.now_eq.symm
  refine ⟨hs.backend_eq.trans ht.backend_eq.symm, hnow,
    hs.clockEnd_eq.trans ht.clockEnd_eq.symm, hs.isPoisoned_eq.trans ht.isPoisoned_eq.symm,
    hs.client.mounts_eq.trans ht.client.mounts_eq.symm, hs.client.cache.trans ?_⟩
  rw [hnow]
  exact ht.client.cache.symm

theorem Agrees.receive {s t : VaultSession} (h : Agrees s t) (certificates : List Certificate)
    (backend : MemoryBackend) :
    (s.receive certificates backend).1 = (t.receive certificates backend).1 ∧
      Agrees (s.receive certificates backend).2 (t.receive certificates backend).2 := by
  obtain ⟨v, b, now, clockEnd, poisoned⟩ := s
  obtain ⟨w, b, now, clockEnd, poisoned⟩ := t
  obtain ⟨rfl, rfl, rfl, rfl, hclient⟩ := h
  have hfits : v.cache.fits now clockEnd = w.cache.fits now clockEnd := by
    rw [TtlCache.fits, TtlCache.fits, hclient.cache.ttl_eq]
  simp only [VaultSession.receive, hfits]
  split
  · exact ⟨rfl, rfl, rfl, rfl, rfl, hclient⟩
  · split
    · exact ⟨rfl, rfl, rfl, rfl, rfl, hclient.keep certificates⟩
    · exact ⟨rfl, rfl, rfl, rfl, rfl, hclient.mounts_eq, hclient.cache.clear⟩

theorem Agrees.list {s t : VaultSession} (h : Agrees s t) :
    s.list.1 = t.list.1 ∧ Agrees s.list.2 t.list.2 := by
  have hcached : s.client.cached? s.now = t.client.cached? t.now := by
    rw [h.client.cached?_eq, h.now_eq]
  unfold VaultSession.list
  rw [hcached, h.client.mounts_eq, h.backend_eq]
  cases t.client.cached? t.now with
  | some certificates => exact ⟨rfl, h⟩
  | none =>
      cases VaultClient.freshListing server t.client.mounts t.backend with
      | mk outcome after =>
          cases outcome with
          | ok certificates => exact h.receive certificates after
          | error e =>
              exact ⟨rfl, rfl, h.now_eq, h.clockEnd_eq, h.isPoisoned_eq, h.client⟩

theorem Agrees.calls_eq {s t : VaultSession} (h : Agrees s t) (step : VaultStep) :
    s.calls step = t.calls step := by
  cases step with
  | client step =>
      obtain ⟨-, hcalls, -⟩ := h.client.step server.recorded (s.backend, []) step
      simp only [calls, ← h.now_eq, ← h.backend_eq, hcalls]
  | readCrl mount =>
      simp only [calls, VaultClient.readCrl, h.client.onMount_eq, h.backend_eq]
  | rotateCrl mount =>
      simp only [calls, VaultClient.rotateCrl, h.client.onMount_eq, h.backend_eq]
  | command | sleep => rfl

theorem Agrees.step {s t : VaultSession} (h : Agrees s t) (step : VaultStep) :
    (step.isObserved = true → (s.observe step).1 = (t.observe step).1) ∧
      Agrees (s.step step).2 (t.step step).2 := by
  suffices hstep : (step.isObserved = true → (s.step step).1 = (t.step step).1) ∧
      Agrees (s.step step).2 (t.step step).2 from
    ⟨fun hobserved => Prod.ext (hstep.1 hobserved) (h.calls_eq step), hstep.2⟩
  by_cases hlist : step = .client .list
  · subst hlist
    exact ⟨fun _ => h.list.1, h.list.2⟩
  obtain ⟨v, b, now, clockEnd, poisoned⟩ := s
  obtain ⟨w, b, now, clockEnd, poisoned⟩ := t
  obtain ⟨rfl, rfl, rfl, rfl, hclient⟩ := h
  cases step with
  | client step =>
      obtain ⟨hanswer, hbackend, hnext⟩ := hclient.step server b step
      cases step with
      | list => exact (hlist rfl).elim
      | details | pem | revoke | check | invalidate | shutdown =>
          exact ⟨fun _ => congrArg VaultAnswer.client (hanswer nofun), hbackend, rfl, rfl, rfl,
            hnext⟩
      | cacheSize => exact ⟨nofun, rfl, rfl, rfl, rfl, hclient⟩
  | readCrl mount =>
      simp only [VaultSession.step, VaultClient.readCrl, hclient.onMount_eq]
      exact ⟨fun _ => trivial, rfl, rfl, rfl, rfl, hclient⟩
  | rotateCrl mount =>
      simp only [VaultSession.step, VaultClient.rotateCrl, hclient.onMount_eq]
      exact ⟨fun _ => trivial, rfl, rfl, rfl, rfl, hclient⟩
  | command change => exact ⟨fun _ => rfl, rfl, rfl, rfl, rfl, hclient⟩
  | sleep millis =>
      refine ⟨fun _ => rfl, ?_, ?_, ?_, ?_, ?_⟩
      · simp only [VaultSession.step, VaultSession.sleep]
        split <;> split <;> rfl
      · rw [now_step, now_step]
      · rw [clockEnd_step, clockEnd_step]
      · simp only [VaultSession.step, VaultSession.sleep]
        split <;> split <;> rfl
      · rw [client_step _ hlist, client_step _ hlist, now_step]
        exact hclient.sleep millis

theorem agrees_simulates :
    Simulates Agrees observe observe (!·.isShutdown) VaultStep.isObserved where
  skip s t step h hshutdown := by
    cases step with
    | client step =>
        cases step with
        | shutdown =>
            exact ⟨h.backend_eq, h.now_eq, h.clockEnd_eq, h.isPoisoned_eq, h.client.mounts_eq,
              h.client.cache⟩
        | list | details | pem | revoke | check | invalidate | cacheSize => cases hshutdown
    | readCrl | rotateCrl | command | sleep => cases hshutdown
  step s t step h _ := (h.step step).2
  kept_of_seen step hobserved := by
    cases step with
    | client step =>
        cases step with
        | shutdown => cases hobserved
        | list | details | pem | revoke | check | invalidate | cacheSize => rfl
    | readCrl | rotateCrl | command | sleep => rfl
  answer_eq s t step h hobserved := (h.step step).1 hobserved

theorem Agrees.expired_of_cacheSize_ne {s t : VaultSession} (h : Agrees s t) (hs : s.HoldsListing)
    (ht : t.HoldsListing) (hne : s.client.cacheSize ≠ t.client.cacheSize) :
    ∀ pair ∈ s.client.cache.table.entries ++ t.client.cache.table.entries,
      pair.2.expiresAt ≤ s.now := by
  intro pair hpair
  have hsize := hs.cacheSize_le
  have hother := ht.cacheSize_le
  rcases Nat.eq_zero_or_pos s.client.cacheSize with hempty | hpos
  · rw [List.eq_nil_of_length_eq_zero hempty, List.nil_append] at hpair
    exact h.client.cache.le_of_size_eq_zero hempty hpair
  · have hempty : t.client.cacheSize = 0 := by omega
    rw [List.eq_nil_of_length_eq_zero hempty, List.append_nil] at hpair
    exact h.client.cache.symm.le_of_size_eq_zero hempty hpair

/-! ## Shutdowns -/

theorem isShutDown_step (s : VaultSession) (step : VaultStep) :
    (s.step step).2.client.isShutDown = (s.client.isShutDown || step.isShutdown) := by
  by_cases hlist : step = .client .list
  · subst hlist
    rcases s.lists_step.client with hclient | hclient | ⟨certificates, hclient⟩ <;>
      rw [hclient] <;> exact (Bool.or_false _).symm
  · rw [client_step s hlist, VaultClient.isShutDown_next]

theorem step_shutdown_of_isShutDown {s : VaultSession} (h : s.client.isShutDown = true) :
    s.step (.client .shutdown) = (.client (.done (.ok ())), s) := by
  have hclient : s.client.shutdown = s.client := by
    rw [VaultClient.shutdown, ← h]
  exact congrArg (fun v => (_, { s with client := v })) hclient

end VaultSession

namespace VaultSetup

open VaultSession

theorem isShutDown_after (c : VaultSetup) (steps : List VaultStep) :
    (c.after steps).client.isShutDown = steps.any VaultStep.isShutdown := by
  induction steps using List.reverseRecOn with
  | nil => rfl
  | append_singleton steps step ih =>
      rw [after_concat, isShutDown_step, ih, List.any_append, List.any_cons, List.any_nil,
        Bool.or_false]

/--
Two runs whose steps differ in shutdowns only, with whatever sweeps, answer each observed step alike
and make the same calls for it.  They keep different numbers of listings only while what is kept has
expired.  A client is shut down from the first shutdown on, and further ones change nothing.
-/
theorem sweeps_and_shutdowns_are_unseen (c : VaultSetup) (sweepEvery : Option Nat)
    {steps others : List VaultStep}
    (hsame : steps.filter (!·.isShutdown) = others.filter (!·.isShutdown)) {other : VaultSetup}
    (hother : other = { c with sweepEvery := sweepEvery }) :
    (traceOf observe (c.after []) steps).filter (·.1.isObserved) =
        (traceOf observe (other.after []) others).filter (·.1.isObserved) ∧
      (c.after steps).backend = (other.after others).backend ∧
      ((c.after steps).client.cacheSize ≠ (other.after others).client.cacheSize →
        ∀ pair ∈ (c.after steps).client.cache.table.entries ++
            (other.after others).client.cache.table.entries,
          pair.2.expiresAt ≤ (c.after steps).now) ∧
      (c.after steps).client.isShutDown = steps.any VaultStep.isShutdown ∧
      ((c.after steps).client.isShutDown = true →
        (c.after steps).step (.client .shutdown) =
          (.client (.done (.ok ())), c.after steps)) := by
  have hstart : VaultSession.Agrees (c.after []) (other.after []) := by
    rw [hother]
    exact ⟨rfl, rfl, rfl, rfl, rfl, .refl _ _⟩
  have hself := VaultSession.Agrees.refl (other.after [])
  -- Both runs are compared with the one that has no shutdowns.
  have hagrees : VaultSession.Agrees (c.after steps) (other.after others) := by
    have hfirst := agrees_simulates.stateAfter hstart steps
    rw [hsame] at hfirst
    exact hfirst.of_common (agrees_simulates.stateAfter hself others)
  refine ⟨?_, hagrees.backend_eq, fun hne => ?_, c.isShutDown_after steps,
    step_shutdown_of_isShutDown⟩
  · rw [agrees_simulates.traceOf_eq hstart steps, hsame,
      agrees_simulates.traceOf_eq hself others]
  · exact hagrees.expired_of_cacheSize_ne (c.holdsListing_after steps)
      (other.holdsListing_after others) hne

/-- The first client sweeps its listing away, the second one keeps it and is shut down. -/
theorem sweeps_and_shutdowns_are_unseen_sample :
    ∃ steps others unswept, unswept = { sample with sweepEvery := none } ∧
      steps = [.client .list, .sleep 6] ∧ others = [.client .list, .client .shutdown, .sleep 6] ∧
      (sample.after steps).client.cacheSize = 0 ∧ (unswept.after others).client.cacheSize = 1 ∧
      (traceOf observe (sample.after []) steps).filter (·.1.isObserved) =
        (traceOf observe (unswept.after []) others).filter (·.1.isObserved) ∧
      ∀ pair ∈ (unswept.after others).client.cache.table.entries, pair.2.expiresAt ≤ 6 := by
  have hsizes : (sample.after [.client .list, .sleep 6]).client.cacheSize = 0 ∧
      (VaultSetup.after { sample with sweepEvery := none }
        [.client .list, .client .shutdown, .sleep 6]).client.cacheSize = 1 := by
    decide +kernel
  have hsame : [VaultStep.client .list, .sleep 6].filter (!·.isShutdown) =
      [VaultStep.client .list, .client .shutdown, .sleep 6].filter (!·.isShutdown) := rfl
  obtain ⟨htrace, -, hexpired, -⟩ := sample.sweeps_and_shutdowns_are_unseen none hsame rfl
  refine ⟨_, _, _, rfl, rfl, rfl, hsizes.1, hsizes.2, htrace, fun pair hpair => ?_⟩
  have hne : (sample.after [.client .list, .sleep 6]).client.cacheSize ≠
      (VaultSetup.after { sample with sweepEvery := none }
        [.client .list, .client .shutdown, .sleep 6]).client.cacheSize := by
    rw [hsizes.1, hsizes.2]
    decide
  have hold := hexpired hne pair (List.mem_append_right _ hpair)
  rwa [now_after] at hold

end VaultSetup
end CertCatalog
