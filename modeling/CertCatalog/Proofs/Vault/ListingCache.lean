import CertCatalog.Proofs.History
import CertCatalog.Proofs.Vault.Calls
import CertCatalog.Proofs.Vault.Steps
import Mathlib.Data.List.Perm.Subperm

/-!
# The cached listing

Whether a listing is answered from the cache is a matter of the past steps alone: it is as long as
the last listing lasts that was read from the server, unless that one was dropped or a listing has
come so late that it crashed.
-/

namespace CertCatalog

open CertCatalog.MemoryBackend

namespace VaultSession

/-! ## One step -/

/-- A listing is not answered from the cache, and it succeeds. -/
def Reads (s : VaultSession) (certificates : List Certificate) : Prop :=
  s.client.cached? s.now = none ∧
    (s.step (.client .list)).1 = .client (.certificates (.ok certificates))

theorem reads_iff {s : VaultSession} {certificates : List Certificate} :
    s.Reads certificates ↔
      s.client.cached? s.now = none ∧ s.backend.listing s.client.mounts = .ok certificates ∧
        (s.isPoisoned = true ∨ ¬s.IsLate) := by
  have hlists := s.lists_step
  unfold Reads
  generalize s.step (.client .list) = run at hlists ⊢
  cases hlists with
  | cached hcached => simp [hcached]
  | failed _ hlisting _ => simp [hlisting]
  | lost _ hlisting _ hpoisoned => simp [hlisting, hpoisoned]
  | crashed _ _ _ hsound hlate => simp [hsound, hlate]
  | kept _ hlisting _ _ hlate => simp [hlisting, hlate]

theorem client_step_list_of_not_reads {s : VaultSession}
    (hsound : (s.step (.client .list)).2.isPoisoned = false) (hnot : ¬ ∃ other, s.Reads other) :
    (s.step (.client .list)).2.client = s.client := by
  have hlists := s.lists_step
  generalize s.step (.client .list) = run at hlists hsound ⊢
  cases hlists with
  | cached | failed | lost => rfl
  | crashed => cases hsound
  | kept hnone hlisting _ _ hlate =>
      exact (hnot ⟨_, reads_iff.mpr ⟨hnone, hlisting, .inr hlate⟩⟩).elim

theorem client_step_list_of_reads {s : VaultSession} {certificates : List Certificate}
    (hsound : s.isPoisoned = false) (hreads : s.Reads certificates) :
    (s.step (.client .list)).2.client = s.client.keep certificates s.now := by
  have hlists := s.lists_step
  obtain ⟨hnone, hanswer⟩ := hreads
  generalize s.step (.client .list) = run at hlists hanswer ⊢
  cases hlists with
  | cached hcached => rw [hnone] at hcached; cases hcached
  | failed | crashed => cases hanswer
  | lost _ _ _ hpoisoned => rw [hsound] at hpoisoned; cases hpoisoned
  | kept => cases hanswer; rfl

/-- A listing that is not read leaves the cache as it is, or it crashes and leaves it empty. -/
theorem entries_step_list_of_not_reads {s : VaultSession} (hnot : ¬ ∃ other, s.Reads other) :
    (s.step (.client .list)).2.client.cache.table.entries ⊆ s.client.cache.table.entries := by
  have hlists := s.lists_step
  generalize s.step (.client .list) = run at hlists ⊢
  cases hlists with
  | cached | failed | lost => exact fun _ hpair => hpair
  | crashed => exact List.nil_subset _
  | kept hnone hlisting _ _ hlate =>
      exact (hnot ⟨_, reads_iff.mpr ⟨hnone, hlisting, .inr hlate⟩⟩).elim

/-- The inversion lemma: where a listing comes from that is found after a step. -/
theorem cached?_step {s : VaultSession} {step : VaultStep}
    (hsound : (s.step step).2.isPoisoned = false) (certificates : List Certificate) {time : Nat}
    (hle : (s.step step).2.now ≤ time) :
    (s.step step).2.client.cached? time = some certificates ↔
      (step = .client .list ∧ s.Reads certificates ∧ time < s.now + s.client.cache.ttl) ∨
        (step ≠ .client .invalidate ∧ ¬ (step = .client .list ∧ ∃ other, s.Reads other)) ∧
          s.client.cached? time = some certificates := by
  rw [now_step] at hle
  by_cases hlist : step = .client .list
  · subst hlist
    by_cases hreads : ∃ other, s.Reads other
    · obtain ⟨other, hother⟩ := hreads
      have honly : ∀ found, s.Reads found ↔ found = other := by
        intro found
        refine ⟨fun hfound => ?_, fun heq => heq ▸ hother⟩
        have hboth := (reads_iff.mp hfound).2.1.symm.trans (reads_iff.mp hother).2.1
        exact Except.ok.inj hboth
      rw [client_step_list_of_reads (sound_of_step hsound).1 hother, VaultClient.cached?_keep_self]
      by_cases hexpired : s.now + s.client.cache.ttl ≤ time
      · simp [hexpired, honly]
      · have hlasts : time < s.now + s.client.cache.ttl := Nat.not_le.mp hexpired
        simp [hexpired, hlasts, honly, eq_comm]
    · have hnone : ¬ s.Reads certificates := fun h => hreads ⟨certificates, h⟩
      rw [client_step_list_of_not_reads hsound hreads]
      simp [hreads, hnone]
  · rw [client_step s hlist, VaultClient.cached?_next s.client hle]
    simp [hlist]

/-! ## After a crash -/

/-- Nothing is kept any more where a caller has crashed. -/
def IsDrained (s : VaultSession) : Prop :=
  s.isPoisoned = true → s.client.cache.table.entries = []

theorem IsDrained.step {s : VaultSession} (h : s.IsDrained) (step : VaultStep) :
    (s.step step).2.IsDrained := by
  by_cases hlist : step = .client .list
  · subst hlist
    have hlists := s.lists_step
    generalize s.step (.client .list) = run at hlists ⊢
    cases hlists with
    | cached | failed | lost => exact h
    | crashed => exact fun _ => rfl
    | kept _ _ _ hsound _ =>
        intro hpoisoned
        cases hsound.symm.trans hpoisoned
  · intro hpoisoned
    rw [isPoisoned_step] at hpoisoned
    have hbefore : s.isPoisoned = true := by
      rcases hpoisoned with hbefore | hcrashed
      · exact hbefore
      · exact (hlist (eq_list_of_crashed hcrashed)).elim
    rw [client_step s hlist]
    exact List.subset_nil.mp (h hbefore ▸ s.client.entries_next_subset s.now step)

theorem IsDrained.cacheSize_eq {s : VaultSession} (h : s.IsDrained)
    (hpoisoned : s.isPoisoned = true) : s.client.cacheSize = 0 :=
  congrArg List.length (h hpoisoned)

theorem IsDrained.sound_of_cached {s : VaultSession} (h : s.IsDrained)
    {certificates : List Certificate} {time : Nat}
    (hcached : s.client.cached? time = some certificates) : s.isPoisoned = false := by
  rw [← Bool.not_eq_true]
  intro hpoisoned
  obtain ⟨entry, hentry, -⟩ := TtlCache.get?_eq_some_iff.mp hcached
  rw [Table.get?_eq_some_iff, h hpoisoned] at hentry
  cases hentry

/-! ## The single key -/

def HoldsListing (s : VaultSession) : Prop :=
  ∀ pair ∈ s.client.cache.table.entries, pair.1 = VaultClient.listingKey

theorem HoldsListing.step {s : VaultSession} (h : s.HoldsListing) (step : VaultStep) :
    (s.step step).2.HoldsListing := by
  unfold HoldsListing
  by_cases hlist : step = .client .list
  · subst hlist
    rcases s.lists_step.client with hclient | hclient | ⟨certificates, hclient⟩
    · rw [hclient]
      exact h
    · rw [hclient]
      exact fun pair hpair => by cases hpair
    · rw [hclient]
      intro pair hpair
      rcases List.mem_cons.mp hpair with rfl | hold
      · rfl
      · exact h pair (List.mem_of_mem_filter hold)
  · rw [client_step s hlist]
    exact fun pair hpair => h pair (VaultClient.entries_next_subset s.client s.now step hpair)

theorem HoldsListing.cacheSize_le {s : VaultSession} (h : s.HoldsListing) :
    s.client.cacheSize ≤ 1 := by
  have hkeys : s.client.cache.table.keys ⊆ [VaultClient.listingKey] := by
    intro key hkey
    obtain ⟨pair, hpair, rfl⟩ := List.mem_map.mp hkey
    exact List.mem_singleton.mpr (h pair hpair)
  have hlength := (List.subperm_of_subset s.client.cache.table.keys_nodup hkeys).length_le
  rwa [List.length_map] at hlength

end VaultSession

namespace VaultSetup

open VaultSession

/-! ## Runs -/

theorem holdsListing_after (c : VaultSetup) (steps : List VaultStep) :
    (c.after steps).HoldsListing := by
  induction steps using List.reverseRecOn with
  | nil => exact fun pair hpair => by cases hpair
  | append_singleton steps step ih =>
      rw [after_concat]
      exact ih.step step

theorem isDrained_after (c : VaultSetup) (steps : List VaultStep) :
    (c.after steps).IsDrained := by
  induction steps using List.reverseRecOn with
  | nil => exact fun hpoisoned => by cases hpoisoned
  | append_singleton steps step ih =>
      rw [after_concat]
      exact ih.step step

def HasCrashed (c : VaultSetup) : List VaultStep → Prop :=
  Since (fun _ _ => True) fun before step => ((c.after before).step step).1 = .crashed

theorem isPoisoned_after_iff (c : VaultSetup) (steps : List VaultStep) :
    (c.after steps).isPoisoned = true ↔ c.HasCrashed steps := by
  induction steps using List.reverseRecOn with
  | nil => exact iff_of_false nofun not_since_nil
  | append_singleton steps step ih =>
      rw [after_concat, isPoisoned_step, ih, HasCrashed, since_concat, true_and, or_comm]

theorem isLate_after_iff (c : VaultSetup) (steps : List VaultStep) :
    (c.after steps).IsLate ↔ c.clockEnd ≤ (c.after steps).now + c.ttl := by
  rw [IsLate, clockEnd_after, ttl_after]

/-- While a new listing would still expire before the end of the clock, nothing has crashed. -/
theorem not_hasCrashed_of_lt {c : VaultSetup} {steps : List VaultStep}
    (htime : (c.after steps).now + c.ttl < c.clockEnd) : ¬c.HasCrashed steps := by
  rintro ⟨before, step, after, hsplit, hcrashed, -⟩
  have hlate := (c.isLate_after_iff before).mp (isLate_of_crashed hcrashed)
  have hnow : (c.after before).now ≤ (c.after steps).now := by
    rw [hsplit, after_append]
    exact now_le_run _ _
  omega

theorem cached?_after {c : VaultSetup} {steps : List VaultStep}
    (hsound : (c.after steps).isPoisoned = false) (certificates : List Certificate)
    {time : Nat} (hle : (c.after steps).now ≤ time) :
    (c.after steps).client.cached? time = some certificates ↔
      Since
        (fun before step => step ≠ .client .invalidate ∧
          ¬ (step = .client .list ∧ ∃ other, (c.after before).Reads other))
        (fun before step => step = .client .list ∧ (c.after before).Reads certificates ∧
          time < (c.after before).now + c.ttl)
        steps := by
  induction steps using List.reverseRecOn with
  | nil =>
      constructor
      · intro hnone
        cases hnone
      · intro hsince
        exact (not_since_nil hsince).elim
  | append_singleton steps step ih =>
      rw [after_concat] at hsound hle ⊢
      have hearlier : (c.after steps).now ≤ time := by
        rw [now_step] at hle
        exact Nat.le_of_add_right_le hle
      rw [cached?_step hsound _ hle, ih (sound_of_step hsound).1 hearlier, ttl_after, since_concat]

/--
A listing is answered from the cache, without a call, exactly if nothing has crashed and the last
listing that was read and succeeded still lasts and was not dropped since.  Any other listing asks
each mount once for its serials and says what the server holds, but for the first one that succeeds
and would expire after the end of the clock: it crashes, and nothing is kept from then on.  Nothing
but a listing that was read, an invalidation and a sweep changes what is cached, and at most one
listing is.
-/
theorem list_after (c : VaultSetup) (steps : List VaultStep) :
    (∀ certificates, (c.after steps).client.cached? (c.after steps).now = some certificates ↔
        ¬c.HasCrashed steps ∧
          Since
            (fun before step => step ≠ .client .invalidate ∧
              ¬ (step = .client .list ∧ ∃ other, (c.after before).Reads other))
            (fun before step => step = .client .list ∧ (c.after before).Reads certificates ∧
              (c.after steps).now < (c.after before).now + c.ttl)
            steps) ∧
      (∀ certificates,
        (c.after steps).client.cached? (c.after steps).now = some certificates →
          (c.after steps).step (.client .list) =
              (.client (.certificates (.ok certificates)), c.after steps) ∧
            (c.after steps).calls (.client .list) = []) ∧
      ((c.after steps).client.cached? (c.after steps).now = none →
        (((c.after steps).step (.client .list)).1 = .crashed ↔
          (∃ certificates, (c.after steps).backend.listing c.mounts = .ok certificates) ∧
            ¬c.HasCrashed steps ∧ c.clockEnd ≤ (c.after steps).now + c.ttl) ∧
        (((c.after steps).step (.client .list)).1 ≠ .crashed →
          ((c.after steps).step (.client .list)).1 =
            .client (.certificates ((c.after steps).backend.listing c.mounts))) ∧
        ((c.after steps).calls (.client .list)).filterMap ServerCall.listedMount? = c.mounts) ∧
      (∀ e, ((c.after steps).step (.client .list)).1 = .client (.certificates (.error e)) →
        ((c.after steps).step (.client .list)).2.client = (c.after steps).client) ∧
      (∀ step, step ≠ .client .list → step ≠ .client .invalidate →
        ((c.after steps).step step).1 ≠ .crashed ∧
        (((c.after steps).step step).2.client.cache = (c.after steps).client.cache ∨
          ∃ millis time, step = .sleep millis ∧
            (c.after steps).client.lastSweep? (c.after steps).now
              ((c.after steps).now + millis) = some time ∧
            ((c.after steps).step step).2.client.cache =
              (c.after steps).client.cache.cleanup time)) ∧
      (c.after steps).client.cacheSize ≤ 1 ∧
      (c.HasCrashed steps → (c.after steps).client.cacheSize = 0) ∧
      ((c.after steps).now + c.ttl < c.clockEnd → ¬c.HasCrashed steps) := by
  have hdrained := c.isDrained_after steps
  have hpoisoned := c.isPoisoned_after_iff steps
  have hsound : (c.after steps).isPoisoned = false ↔ ¬c.HasCrashed steps := by
    rw [← hpoisoned, Bool.not_eq_true]
  have hlists := (c.after steps).lists_step
  refine ⟨fun certificates => ⟨fun hcached => ?_, fun ⟨hnever, hsince⟩ => ?_⟩,
    fun certificates hcached => ⟨step_list_of_cached hcached, calls_list_of_cached hcached⟩,
    fun hnone => ⟨?_, fun hkept => ?_, ?_⟩, fun e herror => hlists.client_of_error herror,
    fun step hlist hinvalidate => ⟨fun hcrashed => hlist (eq_list_of_crashed hcrashed), ?_⟩,
    (c.holdsListing_after steps).cacheSize_le,
    fun hcrashed => hdrained.cacheSize_eq (hpoisoned.mpr hcrashed), not_hasCrashed_of_lt⟩
  · have hbefore := hdrained.sound_of_cached hcached
    exact ⟨hsound.mp hbefore,
      (cached?_after hbefore certificates (Nat.le_refl _)).mp hcached⟩
  · exact (cached?_after (hsound.mpr hnever) certificates (Nat.le_refl _)).mpr hsince
  · rw [hlists.crashed_iff, hsound, isLate_after_iff, mounts_after]
    exact and_iff_right hnone
  · rw [hlists.answer_of_uncached hnone hkept, mounts_after]
  · rw [listedMounts_calls_list hnone, mounts_after]
  · rw [client_step _ hlist]
    exact VaultClient.cache_next _ _ hinvalidate

/-- A client of one mount with one record, which keeps listings for five milliseconds. -/
def sample : VaultSetup :=
  { vaultId := "v"
    mounts := ["pki"]
    ttl := 5
    sweepEvery := some 2
    backend := sampleServer [("pki", "0a:1b")]
    clockEnd := TtlCache.longestClock }

theorem reads_sample : (sample.after []).Reads [sampleCertificate "pki:0a:1b"] :=
  reads_iff.mpr ⟨rfl, listing_sample "pki" "0a:1b", .inr (by decide)⟩

/-- One millisecond before its time is up the listing is still served, and then no longer. -/
theorem list_after_sample :
    ((sample.after [.client .list, .sleep 4]).step (.client .list) =
        (.client (.certificates (.ok [sampleCertificate "pki:0a:1b"])),
          sample.after [.client .list, .sleep 4]) ∧
      (sample.after [.client .list, .sleep 4]).calls (.client .list) = []) ∧
      ((sample.after [.client .list, .sleep 5]).calls (.client .list)).filterMap
        ServerCall.listedMount? = ["pki"] := by
  constructor
  · obtain ⟨hserved, hanswer, -, -, -, -, -, hnever⟩ := sample.list_after [.client .list, .sleep 4]
    have hsound : ¬sample.HasCrashed [.client .list, .sleep 4] := by
      refine hnever ?_
      rw [now_after]
      decide
    refine hanswer _ ((hserved _).mpr
      ⟨hsound, [], _, [.sleep 4], rfl, ⟨rfl, reads_sample, ?_⟩, ?_⟩)
    · simp only [now_after]
      decide
    · intro between other rest hsplit
      have hmem : other ∈ [VaultStep.sleep 4] := by
        rw [hsplit]
        simp
      obtain rfl := List.mem_singleton.mp hmem
      exact ⟨nofun, fun hlist => nomatch hlist.1⟩
  · obtain ⟨hserved, -, hread, -⟩ := sample.list_after [.client .list, .sleep 5]
    refine (hread ?_).2.2
    rw [Option.eq_none_iff_forall_ne_some]
    intro certificates hcached
    obtain ⟨-, before, step, after, hsplit, ⟨rfl, -, hlasts⟩, -⟩ :=
      (hserved certificates).mp hcached
    simp only [now_after] at hlasts
    -- The only listing in the past is the first step.
    cases before with
    | nil => exact absurd hlasts (by decide)
    | cons first rest => cases rest <;> simp at hsplit

/-- With the longest lifetime in seconds the first listing crashes, and no later one is kept. -/
theorem listings_crash_at_longest_lifetime :
    ∃ lasting, lasting = { sample with ttl := (2 ^ 64 - 1) * 1000 } ∧
      ((lasting.after []).step (.client .list)).1 = .crashed ∧
      ((lasting.after [.client .list]).step (.client .list)).1 =
        .client (.certificates (.ok [sampleCertificate "pki:0a:1b"])) ∧
      ((lasting.after [.client .list, .client .list]).calls (.client .list)).filterMap
        ServerCall.listedMount? = ["pki"] := by
  refine ⟨_, rfl, ?_⟩
  decide +kernel

end VaultSetup
end CertCatalog
