import CertCatalog.Proofs.Vault.Listing

/-!
# Single records

What details and PEM material of one record are, as plain functions of the id and of what the server
holds.
-/

namespace CertCatalog

open CertCatalog.CertificateId CertCatalog.VaultClient

/-! ## What a server answers for one record -/

namespace MemoryBackend

def detailsOutcome (b : MemoryBackend) (mount serial : String) : Outcome CertificateDetails := do
  let (pem, attributes) ← b.readOutcome mount serial
  pure
    { CertificateDetails.ofAttributes (ofMount mount serial) serial attributes pem with
      certificate := certificateOf mount (b.revokedOf mount) serial attributes }

def recordOutcome (b : MemoryBackend) (mount serial : String) : Outcome PemRecord := do
  let pem ← b.pemOutcome mount serial
  pure { serialNumber := serial, pem := pem }

theorem failure?_of_readOutcome {b : MemoryBackend} {mount serial : String}
    {found : String × Attributes} (hread : b.readOutcome mount serial = .ok found) :
    b.failure? mount = none := by
  cases hfailure : b.failure? mount with
  | none => rfl
  | some e => simp [readOutcome, pemOutcome, hfailure] at hread

end MemoryBackend

/-! ## What a client answers -/

namespace VaultClient

open CertCatalog.MemoryBackend

theorem details_apply (v : VaultClient) (id : String) (b : MemoryBackend) :
    (v.details server id b).1 = (do
        let (mount, serial) ← v.resolve id
        b.detailsOutcome mount serial) ∧
      SameContents b (v.details server id b).2 := by
  cases hresolve : v.resolve id with
  | error e =>
      have hrun : v.details server id b = (.error e, b) := by
        rw [details, hresolve]
        exact Action.bind_of_error rfl
      rw [hrun]
      exact ⟨rfl, .refl b⟩
  | ok place =>
      obtain ⟨mount, serial⟩ := place
      have hread := readAttributes_apply b mount serial
      cases houtcome : b.readOutcome mount serial with
      | error e =>
          have hrun : v.details server id b = (.error e, b.countRead) := by
            rw [details, hresolve]
            exact (Action.bind_of_ok rfl).trans
              (Action.bind_of_error (hread.trans (by rw [houtcome])))
          rw [hrun]
          simp only [bind, Except.bind, detailsOutcome, houtcome]
          exact ⟨trivial, .countRead b⟩
      | ok found =>
          obtain ⟨pem, attributes⟩ := found
          have hworks : b.countRead.failure? mount = none := failure?_of_readOutcome houtcome
          have hrevoked : server.listRevoked mount b.countRead =
              (.ok (b.revokedOf mount), b.countRead.countRevokedListing) := by
            rw [listRevoked_apply, answerOf, hworks]
            rfl
          have hrun : v.details server id b =
              (.ok { CertificateDetails.ofAttributes (ofMount mount serial) serial attributes pem with
                  certificate := certificateOf mount (b.revokedOf mount) serial attributes },
                b.countRead.countRevokedListing) := by
            rw [details, hresolve]
            exact (Action.bind_of_ok rfl).trans
              ((Action.bind_of_ok (hread.trans (by rw [houtcome]))).trans
                (Action.bind_of_ok hrevoked))
          rw [hrun]
          simp only [bind, Except.bind, detailsOutcome, houtcome]
          exact ⟨rfl, (SameContents.countRead b).trans (.countRevokedListing _)⟩

theorem pem_apply (v : VaultClient) (id : String) (b : MemoryBackend) :
    (v.pem server id b).1 = (do
        let (mount, serial) ← v.resolve id
        b.recordOutcome mount serial) ∧
      SameContents b (v.pem server id b).2 := by
  cases hresolve : v.resolve id with
  | error e =>
      have hrun : v.pem server id b = (.error e, b) := by
        rw [VaultClient.pem, hresolve]
        exact Action.bind_of_error rfl
      rw [hrun]
      exact ⟨rfl, .refl b⟩
  | ok place =>
      obtain ⟨mount, serial⟩ := place
      have hread := readPem_apply b mount serial
      cases houtcome : b.pemOutcome mount serial with
      | error e =>
          have hrun : v.pem server id b = (.error e, b.countRead) := by
            rw [VaultClient.pem, hresolve]
            exact (Action.bind_of_ok rfl).trans
              (Action.bind_of_error (hread.trans (by rw [houtcome])))
          rw [hrun]
          simp only [bind, Except.bind, recordOutcome, houtcome]
          exact ⟨trivial, .countRead b⟩
      | ok text =>
          have hrun : v.pem server id b =
              (.ok { serialNumber := serial, pem := text }, b.countRead) := by
            rw [VaultClient.pem, hresolve]
            exact (Action.bind_of_ok rfl).trans
              (Action.bind_of_ok (hread.trans (by rw [houtcome])))
          rw [hrun]
          simp only [bind, Except.bind, recordOutcome, houtcome]
          exact ⟨rfl, .countRead b⟩

end VaultClient
end CertCatalog
