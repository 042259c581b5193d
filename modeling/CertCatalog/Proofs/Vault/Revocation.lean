import CertCatalog.Proofs.CertificateId
import CertCatalog.Proofs.Config.Normal
import CertCatalog.Proofs.Vault.Session

/-!
# Revocations of one client

A revocation of a client is one revocation of its server at the place that the id leads to, or it
changes nothing.  The id of a listed certificate leads to the record that it was made of exactly if
no colon stands in the mount and no blank at the end of the serial.
-/

namespace CertCatalog

open CertCatalog.CertificateId CertCatalog.MemoryBackend

/-! ## One revocation -/

namespace VaultClient

theorem revoke_of_isAllBlank {token : String} (hblank : Text.isAllBlank token = true)
    (v : VaultClient) (id : String) (b : MemoryBackend) :
    v.revoke server id token b = (.error .missingWriteToken, b) := by
  unfold revoke
  rw [if_pos hblank]
  rfl

theorem revoke_of_resolve {v : VaultClient} {id mount serial token : String}
    (htoken : Text.isAllBlank token = false) (hresolve : v.resolve id = .ok (mount, serial))
    (b : MemoryBackend) :
    v.revoke server id token b = b.revoke mount serial (Text.trim token) := by
  unfold revoke
  rw [htoken, hresolve]
  exact Action.bind_of_ok rfl

theorem revoke_of_resolve_error {v : VaultClient} {id token : String}
    (htoken : Text.isAllBlank token = false) {e : CatalogError}
    (hresolve : v.resolve id = .error e) (b : MemoryBackend) :
    v.revoke server id token b = (.error e, b) := by
  unfold revoke
  rw [htoken, hresolve]
  exact Action.bind_of_error rfl

/-- The inversion lemma: all that a revocation can do. -/
theorem revoke_cases (v : VaultClient) (id token : String) (b : MemoryBackend) :
    (∃ mount serial, Text.isAllBlank token = false ∧ v.resolve id = .ok (mount, serial) ∧
        b.failure? mount = none ∧ (b.pem? mount serial).isSome ∧
        v.revoke server id token b =
          (.ok (), b.withRevocation ⟨mount, serial, Text.trim token⟩)) ∨
      ∃ e, v.revoke server id token b = (.error e, b) := by
  cases htoken : Text.isAllBlank token with
  | true => exact .inr ⟨_, revoke_of_isAllBlank htoken v id b⟩
  | false =>
      cases hresolve : v.resolve id with
      | error e => exact .inr ⟨e, revoke_of_resolve_error htoken hresolve b⟩
      | ok place =>
          obtain ⟨mount, serial⟩ := place
          have hrun := revoke_of_resolve htoken hresolve b
          rcases b.revoke_cases mount serial (Text.trim token) with
            ⟨hworks, hknown, hdone⟩ | ⟨e, hfailed⟩
          · exact .inl ⟨mount, serial, rfl, rfl, hworks, hknown, hrun.trans hdone⟩
          · exact .inr ⟨e, hrun.trans hfailed⟩

theorem revocations_of_ofMount {v : VaultClient} {mount : String} (hmem : mount ∈ v.mounts)
    (hlead : Text.hasLeadingBlank mount = false) {serial token : String} {b after : MemoryBackend}
    (hrun : v.revoke server (ofMount mount serial) token b = (.ok (), after)) :
    after.revocations = b.revocations ++ [⟨mount, serial, Text.trim token⟩] ↔
      mountSeparator ∉ mount.toList ∧ Text.hasTrailingBlank serial = false := by
  rcases v.revoke_cases (ofMount mount serial) token b with
    ⟨found, number, -, hresolve, -, -, hdone⟩ | ⟨e, hfailed⟩
  · obtain ⟨-, rfl⟩ := Prod.mk.inj (hdone.symm.trans hrun)
    rw [← resolve_ofMount_eq_iff hmem hlead hresolve]
    simp [withRevocation]
  · rw [hfailed] at hrun
    cases hrun

end VaultClient

/-! ## Revoking what was listed -/

namespace VaultSession

theorem step_revoke (s : VaultSession) (id token : String) :
    (s.step (.client (.revoke id token))).1 =
        .client (.done (s.client.revoke server id token s.backend).1) ∧
      (s.step (.client (.revoke id token))).2.backend =
        (s.client.revoke server id token s.backend).2 :=
  ⟨rfl, rfl⟩

/--
In every session of a client with the mounts of a normal entry, each listed certificate was made of
a record of one of the mounts, and its id may be revoked at any later time.  When that succeeds, the
record that the certificate was made of is the one that is revoked, exactly if its mount holds no
colon and its serial ends without a blank.
-/
theorem revoked_place_of_listed {order : FaultOrder} {entries normals : List VaultEntry}
    (hnormals : VaultEntry.normalizeAll order entries = .ok normals) {entry : VaultEntry}
    (hentry : entry ∈ normals) {ttl : Nat} {sweepEvery : Option Nat} {b : MemoryBackend}
    {clockEnd : Nat} (steps : List VaultStep) {session listing : VaultSession}
    (hsession : session =
      (start (.start entry.id entry.mounts ttl sweepEvery) b clockEnd).run steps)
    {certificates : List Certificate}
    (hlist : session.step (.client .list) = (.client (.certificates (.ok certificates)), listing))
    {c : Certificate} (hc : c ∈ certificates) :
    (∃ mount ∈ entry.mounts, ∃ serial, c.IsMadeOf mount serial) ∧
      ∀ mount ∈ entry.mounts, ∀ serial, c.IsMadeOf mount serial →
        ∀ (more : List VaultStep) (token : String) (after : VaultSession),
          (listing.run more).step (.client (.revoke c.id token)) =
              (.client (.done (.ok ())), after) →
            (after.backend.revocations =
                (listing.run more).backend.revocations ++ [⟨mount, serial, Text.trim token⟩] ↔
              mountSeparator ∉ mount.toList ∧ Text.hasTrailingBlank serial = false) := by
  have hover : session.IsOver entry.mounts := by
    rw [hsession]
    exact (isOver_start entry.id entry.mounts ttl sweepEvery b clockEnd).run steps
  obtain ⟨hmade, hlater⟩ := hover.lists session.lists_step
  rw [hlist] at hmade hlater
  constructor
  · exact hmade certificates rfl c hc
  · intro mount hmount serial hmade more token after hrevoke
    obtain ⟨hanswer, hbackend⟩ := step_revoke (listing.run more) c.id token
    rw [hrevoke] at hanswer hbackend
    have hok := ClientAnswer.done.inj (VaultAnswer.client.inj hanswer)
    have hrun : (listing.run more).client.revoke server (ofMount mount serial) token
        (listing.run more).backend = (.ok (), after.backend) := by
      rw [← hmade.id_eq]
      exact Prod.ext hok.symm hbackend.symm
    -- No step of the session has changed the mounts of the client.
    have hmem : mount ∈ (listing.run more).client.mounts := by
      rw [(hlater.run more).mounts_eq]
      exact hmount
    exact VaultClient.revocations_of_ofMount hmem
      (VaultEntry.hasLeadingBlank_of_normalizeAll hnormals hentry hmount) hrun

def sampleEntry (mounts : List String) : VaultEntry :=
  { VaultEntry.empty with id := "v", address := "http://v", token := ⟨"r"⟩, mounts := mounts }

def sampleSession (mounts : List String) (b : MemoryBackend) : VaultSession :=
  start (.start "v" (sampleEntry mounts).completed.mounts 60000 none) b TtlCache.longestClock

def revocationSteps (id : String) : List VaultStep :=
  [.client .list, .client (.revoke id "w")]

theorem revoked_place_of_sample : ∃ listing after,
    (sampleSession ["pki"] (sampleServer [("pki", "0a:1b")])).step (.client .list) =
        (.client (.certificates (.ok [sampleCertificate "pki:0a:1b"])), listing) ∧
      listing.step (.client (.revoke "pki:0a:1b" "w")) = (.client (.done (.ok ())), after) ∧
      after.backend.revocations = listing.backend.revocations ++ [⟨"pki", "0a:1b", "w"⟩] := by
  have hnormals : VaultEntry.normalizeAll .addressFirst [sampleEntry ["pki"]] =
      .ok [(sampleEntry ["pki"]).completed] := by decide +kernel
  have hmade := isMadeOf_sample "pki" "0a:1b"
  have hanswers :
      (sampleSession ["pki"] (sampleServer [("pki", "0a:1b")])).answers
          (revocationSteps "pki:0a:1b") =
        [.client (.certificates (.ok [sampleCertificate "pki:0a:1b"])),
          .client (.done (.ok ()))] := by decide +kernel
  obtain ⟨hlist, hrest⟩ := List.cons.inj hanswers
  obtain ⟨hrevoke, -⟩ := List.cons.inj hrest
  have hplace := (revoked_place_of_listed hnormals (List.mem_singleton_self _) [] rfl
    (Prod.ext hlist rfl) (List.mem_singleton_self _)).2 "pki" (by decide) "0a:1b" hmade [] "w" _
    (Prod.ext hrevoke rfl)
  exact ⟨_, _, Prod.ext hlist rfl, Prod.ext hrevoke rfl, hplace.mpr (by decide)⟩

/-! ## A colon in a mount -/

/-- A server with a record that can be read and one that cannot, whose ids are the same. -/
def colonServer : MemoryBackend :=
  (sampleServer [("a:b", "01")]).insert ⟨"a", "b:01", ""⟩

/-- The certificate was made of one record, and the revocation of its id hits the other one. -/
theorem revoked_place_of_colon_mount :
    VaultEntry.normalizeAll .addressFirst [sampleEntry ["a", "a:b"]] =
        .ok [(sampleEntry ["a", "a:b"]).completed] ∧
      (sampleCertificate "a:b:01").IsMadeOf "a:b" "01" ∧
      (sampleSession ["a", "a:b"] colonServer).answers (revocationSteps "a:b:01") =
        [.client (.certificates (.ok [sampleCertificate "a:b:01"])), .client (.done (.ok ()))] ∧
      ((sampleSession ["a", "a:b"] colonServer).run
        (revocationSteps "a:b:01")).backend.revocations = [⟨"a", "b:01", "w"⟩] :=
  ⟨by decide +kernel, isMadeOf_sample "a:b" "01", by decide +kernel⟩

end VaultSession
end CertCatalog
