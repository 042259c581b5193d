import CertCatalog.Proofs.Vault.ListingCache
import CertCatalog.Proofs.Vault.Revocation

/-!
# Revocations in later listings

Details see a revocation at once, and listings when they are read anew.  What a listing has once
shown as revoked no later listing shows otherwise, since what is cached was read from an earlier
state of the server and revocations are never taken back.
-/

namespace CertCatalog

open CertCatalog.CertificateId CertCatalog.MemoryBackend

/-! ## Certificates of one listing -/

namespace MemoryBackend

theorem revoked_of_mem_listing {b : MemoryBackend} {mounts : List String}
    (hplain : ∀ mount ∈ mounts, mountSeparator ∉ mount.toList) {certificates : List Certificate}
    (hok : b.listing mounts = .ok certificates) {c : Certificate} (hc : c ∈ certificates)
    {mount serial : String} (hmount : mount ∈ mounts) (hid : c.id = ofMount mount serial) :
    c.revoked = true ↔ (mount, serial) ∈ b.revoked := by
  obtain ⟨found, hfound, number, -, pem, attributes, -, rfl⟩ := exists_record_of_listing hok hc
  rw [VaultClient.certificateOf_eq] at hid
  obtain ⟨rfl, rfl⟩ := ofMount_inj (hplain found hfound) (hplain mount hmount) hid
  exact revoked_certificateOf

theorem revoked_of_detailsOutcome {b : MemoryBackend} {mount serial : String}
    {details : CertificateDetails} (hok : b.detailsOutcome mount serial = .ok details) :
    details.certificate.revoked = true ↔ (mount, serial) ∈ b.revoked := by
  unfold detailsOutcome at hok
  cases hread : b.readOutcome mount serial with
  | error e =>
      rw [hread] at hok
      cases hok
  | ok found =>
      rw [hread] at hok
      cases hok
      exact revoked_certificateOf

end MemoryBackend

namespace VaultSession

/-! ## Revocations stand -/

theorem revoked_subset_step (s : VaultSession) (step : VaultStep) :
    s.backend.revoked ⊆ (s.step step).2.backend.revoked := by
  cases hquiet : isQuiet step with
  | true =>
      rw [(sameContents_step s hquiet).revoked]
      exact fun _ hplace => hplace
  | false =>
      cases step with
      | command change => exact s.backend.revoked_subset_apply change
      | client step =>
          cases step with
          | revoke id token =>
              rw [(step_revoke s id token).2]
              rcases s.client.revoke_cases id token s.backend with
                ⟨mount, serial, -, -, -, -, hdone⟩ | ⟨e, hfailed⟩
              · rw [hdone]
                exact s.backend.revoked_subset_markRevoked mount serial
              · rw [hfailed]
                exact fun _ hplace => hplace
          | list | details | pem | check | invalidate | shutdown | cacheSize => cases hquiet
      | readCrl | rotateCrl | sleep => cases hquiet

theorem revoked_subset_run (s : VaultSession) (steps : List VaultStep) :
    s.backend.revoked ⊆ (s.run steps).backend.revoked := by
  induction steps generalizing s with
  | nil => exact fun _ hplace => hplace
  | cons step rest ih => exact List.Subset.trans (s.revoked_subset_step step) (ih (s.step step).2)

/-! ## What is kept -/

/--
The server holds these places as revoked, and so did the state of it that the kept listing, expired
or not, was read from.  What was revoked in that state is revoked still.
-/
structure Remembers (s : VaultSession) (places : List (String × String)) : Prop where
  drained : s.IsDrained
  standing : places ⊆ s.backend.revoked
  kept : ∀ entry, s.client.cache.table.get? VaultClient.listingKey = some entry →
    ∃ b : MemoryBackend, b.listing s.client.mounts = .ok entry.value ∧ places ⊆ b.revoked ∧
      b.revoked ⊆ s.backend.revoked

theorem Remembers.of_reads {s : VaultSession} {certificates : List Certificate}
    (hdrained : s.IsDrained) (hreads : s.Reads certificates) :
    (s.step (.client .list)).2.Remembers s.backend.revoked := by
  have hsubset := s.revoked_subset_step (.client .list)
  refine ⟨hdrained.step _, hsubset, fun entry hentry => ⟨s.backend, ?_, fun _ h => h, hsubset⟩⟩
  cases hpoisoned : s.isPoisoned with
  | false =>
      rw [client_step_list_of_reads hpoisoned hreads, VaultClient.keep, TtlCache.insert,
        Table.get?_insert_self] at hentry
      cases hentry
      rw [mounts_step]
      exact (reads_iff.mp hreads).2.1
  | true =>
      have hafter := hdrained.step _ ((isPoisoned_step s (.client .list)).mpr (.inl hpoisoned))
      rw [Table.get?_eq_some_iff, hafter] at hentry
      cases hentry

theorem Remembers.step {s : VaultSession} {places : List (String × String)}
    (h : s.Remembers places) (step : VaultStep) : (s.step step).2.Remembers places := by
  have hsubset := s.revoked_subset_step step
  by_cases hreads : step = .client .list ∧ ∃ certificates, s.Reads certificates
  · obtain ⟨rfl, certificates, hreads⟩ := hreads
    obtain ⟨hdrained, -, hkept⟩ := Remembers.of_reads h.drained hreads
    refine ⟨hdrained, List.Subset.trans h.standing hsubset, fun entry hentry => ?_⟩
    obtain ⟨b, hlisting, hearlier, hlater⟩ := hkept entry hentry
    exact ⟨b, hlisting, List.Subset.trans h.standing hearlier, hlater⟩
  · -- Whatever is kept after another step was kept before it.
    have hkept : (s.step step).2.client.cache.table.entries ⊆ s.client.cache.table.entries := by
      by_cases hlist : step = .client .list
      · subst hlist
        exact entries_step_list_of_not_reads fun hexists => hreads ⟨rfl, hexists⟩
      · rw [client_step s hlist]
        exact VaultClient.entries_next_subset s.client s.now step
    refine ⟨h.drained.step step, List.Subset.trans h.standing hsubset, fun entry hentry => ?_⟩
    obtain ⟨b, hlisting, hearlier, hlater⟩ :=
      h.kept entry (Table.get?_eq_some_iff.mpr (hkept (Table.get?_eq_some_iff.mp hentry)))
    rw [mounts_step]
    exact ⟨b, hlisting, hearlier, List.Subset.trans hlater hsubset⟩

theorem Remembers.run {s : VaultSession} {places : List (String × String)}
    (h : s.Remembers places) (steps : List VaultStep) : (s.run steps).Remembers places := by
  induction steps generalizing s with
  | nil => exact h
  | cons step rest ih => exact ih (h.step step)

/-- Each listing was read from some state of the server, and no later one from an earlier state. -/
theorem Remembers.exists_source {s : VaultSession} {places : List (String × String)}
    (h : s.Remembers places) {certificates : List Certificate}
    (hlist : (s.step (.client .list)).1 = .client (.certificates (.ok certificates))) :
    ∃ b : MemoryBackend, b.listing s.client.mounts = .ok certificates ∧ places ⊆ b.revoked ∧
      (s.step (.client .list)).2.Remembers b.revoked := by
  cases hcached : s.client.cached? s.now with
  | none =>
      have hreads : s.Reads certificates := ⟨hcached, hlist⟩
      exact ⟨s.backend, (reads_iff.mp hreads).2.1, h.standing, .of_reads h.drained hreads⟩
  | some kept =>
      rw [step_list_of_cached hcached] at hlist ⊢
      obtain rfl : kept = certificates := by simpa using hlist
      obtain ⟨entry, hentry, -, rfl⟩ := TtlCache.get?_eq_some_iff.mp hcached
      obtain ⟨b, hlisting, hearlier, hlater⟩ := h.kept entry hentry
      refine ⟨b, hlisting, hearlier, h.drained, hlater, fun other hother => ?_⟩
      obtain rfl : other = entry := Option.some.inj (hother.symm.trans hentry)
      exact ⟨b, hlisting, fun _ hplace => hplace, hlater⟩

/-- Only an invalidation takes away a listing that still lasts. -/
theorem cached?_run {s : VaultSession} {certificates : List Certificate} {time : Nat}
    (hcached : s.client.cached? time = some certificates) {steps : List VaultStep}
    (hle : (s.run steps).now ≤ time) (hkept : .client .invalidate ∉ steps) :
    (s.run steps).client.cached? time = some certificates := by
  induction steps generalizing s with
  | nil => exact hcached
  | cons step rest ih =>
      have hstep := List.ne_of_not_mem_cons hkept
      have hrest := List.not_mem_of_not_mem_cons hkept
      have hnext : (s.step step).2.now ≤ time := Nat.le_trans (now_le_run _ rest) hle
      rw [now_step] at hnext
      have hfound : (s.step step).2.client.cached? time = some certificates := by
        by_cases hlist : step = .client .list
        · subst hlist
          have hnow := TtlCache.get?_of_later (Nat.le_of_add_right_le hnext) hcached
          rw [step_list_of_cached hnow]
          exact hcached
        · rw [client_step s hlist, VaultClient.cached?_next s.client hnext]
          exact ⟨hstep.symm, hcached⟩
      exact ih hfound hle hrest

/-! ## A revocation -/

theorem revoke_eq_ok {s : VaultSession} {id token : String}
    (hrevoke : (s.step (.client (.revoke id token))).1 = .client (.done (.ok ()))) :
    ∃ mount serial, s.client.resolve id = .ok (mount, serial) ∧
      (mount, serial) ∈ (s.step (.client (.revoke id token))).2.backend.revoked ∧
      (s.step (.client (.revoke id token))).2.client = s.client := by
  obtain ⟨hanswer, hbackend⟩ := step_revoke s id token
  rw [hrevoke] at hanswer
  rcases s.client.revoke_cases id token s.backend with
    ⟨mount, serial, -, hresolve, -, -, hdone⟩ | ⟨e, hfailed⟩
  · refine ⟨mount, serial, hresolve, ?_, client_step s nofun⟩
    rw [hbackend, hdone]
    exact mem_revoked_markRevoked.mpr (.inl rfl)
  · rw [hfailed] at hanswer
    simp at hanswer

theorem revoked_of_details {s : VaultSession} {id mount serial : String}
    (hplace : (mount, serial) ∈ s.backend.revoked)
    (hresolve : s.client.resolve id = .ok (mount, serial)) {details : CertificateDetails}
    (hok : (s.step (.client (.details id))).1 = .client (.details (.ok details))) :
    details.certificate.revoked = true := by
  rw [step_details] at hok
  have houtcome : s.backend.detailsOutcome mount serial = .ok details := by
    have hanswer := (VaultClient.details_apply s.client id s.backend).1
    rw [hresolve, ClientAnswer.details.inj (VaultAnswer.client.inj hok)] at hanswer
    exact hanswer.symm
  exact (revoked_of_detailsOutcome houtcome).mpr hplace

end VaultSession

namespace VaultSetup

open VaultSession

theorem remembers_nil (c : VaultSetup) : (c.after []).Remembers [] :=
  ⟨c.isDrained_after [], List.nil_subset _, fun entry hentry => by cases hentry⟩

theorem revoked_of_listed_before (c : VaultSetup)
    (hplain : ∀ mount ∈ c.mounts, mountSeparator ∉ mount.toList) (steps more : List VaultStep)
    {earlier later : List Certificate}
    (hearlier : ((c.after steps).step (.client .list)).1 =
      .client (.certificates (.ok earlier)))
    (hlater : ((c.after (steps ++ .client .list :: more)).step (.client .list)).1 =
      .client (.certificates (.ok later)))
    {first second : Certificate} (hfirst : first ∈ earlier) (hsecond : second ∈ later)
    (hid : second.id = first.id) (hrevoked : first.revoked = true) : second.revoked = true := by
  have hstart : (c.after steps).Remembers [] := by
    rw [← List.nil_append steps, after_append]
    exact c.remembers_nil.run steps
  obtain ⟨b, hlisting, -, hremembers⟩ := hstart.exists_source hearlier
  have hrun : c.after (steps ++ .client .list :: more) =
      ((c.after steps).step (.client .list)).2.run more := by
    rw [after_append]
    rfl
  rw [hrun] at hlater
  obtain ⟨a, hfresh, hsubset, -⟩ := (hremembers.run more).exists_source hlater
  rw [← hrun, mounts_after] at hfresh
  rw [mounts_after] at hlisting
  -- Both certificates were made in the same place, where the id leads.
  obtain ⟨mount, hmount, serial, -, pem, attributes, -, hmade⟩ :=
    exists_record_of_listing hlisting hfirst
  have hfirstId : first.id = ofMount mount serial := by
    rw [hmade, VaultClient.certificateOf_eq]
    rfl
  have hplace := (revoked_of_mem_listing hplain hlisting hfirst hmount hfirstId).mp hrevoked
  exact (revoked_of_mem_listing hplain hfresh hsecond hmount (hid.trans hfirstId)).mpr
    (hsubset hplace)

/--
Once a revocation has succeeded, all details of its record show it.  A listing that is still cached
is served as it was, and whenever the server is read again the listing shows it as well.  In any
run, what one listing shows as revoked no later one shows otherwise.
-/
theorem revocations_are_seen (c : VaultSetup)
    (hplain : ∀ mount ∈ c.mounts, mountSeparator ∉ mount.toList) (steps : List VaultStep) :
    (∀ id token,
      ((c.after steps).step (.client (.revoke id token))).1 = .client (.done (.ok ())) →
        ∃ mount serial, CertificateId.resolve c.mounts id = .ok (mount, serial) ∧
          ∀ more later, later = c.after (steps ++ .client (.revoke id token) :: more) →
            (∀ other details, CertificateId.resolve c.mounts other = .ok (mount, serial) →
              (later.step (.client (.details other))).1 = .client (.details (.ok details)) →
                details.certificate.revoked = true) ∧
            (∀ certificates, (c.after steps).client.cached? later.now = some certificates →
              .client .invalidate ∉ more →
                later.step (.client .list) =
                  (.client (.certificates (.ok certificates)), later)) ∧
            ∀ certificates, later.Reads certificates → ∀ found ∈ certificates,
              found.id = ofMount mount serial → found.revoked = true) ∧
      ∀ more earlier later,
        ((c.after steps).step (.client .list)).1 = .client (.certificates (.ok earlier)) →
        ((c.after (steps ++ .client .list :: more)).step (.client .list)).1 =
            .client (.certificates (.ok later)) →
          ∀ first ∈ earlier, ∀ second ∈ later, second.id = first.id →
            first.revoked = true → second.revoked = true := by
  refine ⟨fun id token hrevoke => ?_, fun more earlier later hearlier hlater first hfirst second
    hsecond => c.revoked_of_listed_before hplain steps more hearlier hlater hfirst hsecond⟩
  obtain ⟨mount, serial, hresolve, hplace, hclient⟩ := revoke_eq_ok hrevoke
  rw [VaultClient.resolve, mounts_after] at hresolve
  refine ⟨mount, serial, hresolve, ?_⟩
  intro more later hlater
  have hrun : later = ((c.after steps).step (.client (.revoke id token))).2.run more := by
    rw [hlater, after_append]
    rfl
  have hmounts : later.client.mounts = c.mounts := by
    rw [hlater, mounts_after]
  have hstanding : (mount, serial) ∈ later.backend.revoked := by
    rw [hrun]
    exact revoked_subset_run _ more hplace
  refine ⟨fun other details hother hok => ?_, fun certificates hcached hkept => ?_,
    fun certificates hreads found hfound hid => ?_⟩
  · rw [← hmounts] at hother
    exact revoked_of_details hstanding hother hok
  · rw [← hclient] at hcached
    have hserved := cached?_run hcached (Nat.le_of_eq (congrArg VaultSession.now hrun).symm) hkept
    rw [← hrun] at hserved
    exact step_list_of_cached hserved
  · have hlisting := (reads_iff.mp hreads).2.1
    rw [hmounts] at hlisting
    exact (revoked_of_mem_listing hplain hlisting hfound (mem_of_resolve hresolve) hid).mpr
      hstanding

/-- The cached listing does not show a revocation, the next listing that is read does. -/
theorem revocations_are_seen_sample :
    ∃ found,
      (sample.after [.client .list, .client (.revoke "pki:0a:1b" "w")]).step (.client .list) =
          (.client (.certificates (.ok [sampleCertificate "pki:0a:1b"])),
            sample.after [.client .list, .client (.revoke "pki:0a:1b" "w")]) ∧
        ((sample.after [.client .list, .client (.revoke "pki:0a:1b" "w"),
            .client .invalidate]).step (.client .list)).1 =
          .client (.certificates (.ok [found])) ∧
        found.id = "pki:0a:1b" ∧ found.revoked = true := by
  have hanswers : (sample.after [.client .list]).answers
      [.client (.revoke "pki:0a:1b" "w"), .client .invalidate, .client .list] =
      [.client (.done (.ok ())), .client (.done (.ok ())),
        .client (.certificates (.ok [(sampleCertificate "pki:0a:1b").markRevoked]))] := by
    decide +kernel
  obtain ⟨hrevoke, hrest⟩ := List.cons.inj hanswers
  obtain ⟨hlist, -⟩ := List.cons.inj (List.cons.inj hrest).2
  rw [← after_concat, ← after_concat] at hlist
  obtain ⟨hseen, -⟩ := sample.revocations_are_seen (by decide) [.client .list]
  obtain ⟨mount, serial, hresolve, hlater⟩ := hseen _ _ hrevoke
  obtain ⟨rfl, rfl⟩ : "pki" = mount ∧ "0a:1b" = serial :=
    Prod.mk.inj (Except.ok.inj hresolve)
  have hcached : (sample.after [.client .list]).client.cached?
      (sample.after [.client .list, .client (.revoke "pki:0a:1b" "w")]).now =
        some [sampleCertificate "pki:0a:1b"] := by
    have hkept := client_step_list_of_reads rfl reads_sample
    rw [← after_concat] at hkept
    rw [now_after]
    exact (congrArg (VaultClient.cached? · 0) hkept).trans (VaultClient.cached?_keep_self _ _ _ _)
  have hdropped : ∀ s : VaultSession, (s.step (.client .invalidate)).2.client.cached?
      (s.step (.client .invalidate)).2.now = none := fun _ => rfl
  exact ⟨_, (hlater [] _ rfl).2.1 _ hcached nofun, hlist, rfl,
    (hlater [.client .invalidate] _ rfl).2.2 _ ⟨hdropped _, hlist⟩ _ (List.mem_singleton_self _)
      rfl⟩

end VaultSetup
end CertCatalog
