import CertCatalog.Proofs.Pem
import CertCatalog.Proofs.Vault.CompleteListing
import CertCatalog.Proofs.Vault.Details

/-!
# Records with a chain

A record is read by its first block.  So a record that holds a leaf and any chain of issuers after
it, or explanatory lines before it, says of the leaf what a record with nothing else would say.
-/

namespace CertCatalog

open CertCatalog.CertificateId CertCatalog.MemoryBackend

/-! ## The attributes of a text -/

namespace Attributes

theorem ofPem_append {text : String}
    (hpresent : ∀ cause, ofPem text ≠ .error (.missingPem cause)) (more : String) :
    ofPem (text ++ more) = ofPem text := by
  cases hread : Pem.read text with
  | error cause => exact absurd (by rw [ofPem, hread]) (hpresent cause)
  | ok block => rw [ofPem, ofPem, Pem.read_append_of_ok hread, hread]

theorem ofPem_completeLines_append {front : List String} (hfront : Pem.IsPreamble front)
    (text : String) : ofPem (Pem.completeLines front ++ text) = ofPem text := by
  rw [ofPem, ofPem, Pem.read_completeLines_append hfront]

theorem ofPem_surrounded {front : List String} (hfront : Pem.IsPreamble front) {leaf : String}
    {attributes : Attributes} (hleaf : ofPem leaf = .ok attributes) (chain : String) :
    ofPem (Pem.completeLines front ++ leaf ++ chain) = .ok attributes := by
  have hlead : ofPem (Pem.completeLines front ++ leaf) = .ok attributes := by
    rw [ofPem_completeLines_append hfront, hleaf]
  have hpresent : ∀ cause,
      ofPem (Pem.completeLines front ++ leaf) ≠ .error (.missingPem cause) := by
    intro cause
    rw [hlead]
    exact fun h => nomatch h
  rw [ofPem_append hpresent, hlead]

end Attributes

/-! ## What a client says of a record -/

namespace MemoryBackend

variable {b : MemoryBackend} {record : StoredRecord} {attributes : Attributes}

theorem readOutcome_of_mem (hmem : record ∈ b.records) (hworks : b.failure? record.mount = none)
    (hread : Attributes.ofPem record.pem = .ok attributes) :
    b.readOutcome record.mount record.serial = .ok (record.pem, attributes) := by
  refine readOutcome_eq_ok.mpr ⟨?_, hread⟩
  rw [pemOutcome, hworks, pem?_of_mem hmem]

theorem exists_listing_of_mem (hmem : record ∈ b.records)
    (hworks : b.failure? record.mount = none)
    (hread : Attributes.ofPem record.pem = .ok attributes) {mounts : List String}
    (hmount : record.mount ∈ mounts) :
    ∃ certificates, b.listing mounts = .ok certificates ∧
      VaultClient.certificateOf record.mount (b.revokedOf record.mount) record.serial attributes ∈
        certificates := by
  cases hlisting : b.listing mounts with
  | error e =>
      obtain ⟨fault, hfault⟩ := (listing_eq_error_iff.mp hlisting).1 _ hmount
      rw [hworks] at hfault
      cases hfault
  | ok certificates =>
      refine ⟨certificates, rfl, (perm_of_listing hlisting).mem_iff.mpr ?_⟩
      refine List.mem_flatMap.mpr ⟨record.mount, hmount, List.mem_filterMap.mpr ⟨record, ?_, ?_⟩⟩
      · exact List.mem_filter.mpr ⟨hmem, beq_self_eq_true _⟩
      · rw [← certificate?_of_mem hmem]
        exact certificate?_eq_some.mpr ⟨_, _, readOutcome_of_mem hmem hworks hread, rfl⟩

end MemoryBackend

namespace VaultClient

/--
The first block of a text decides what the text says, or why it says nothing: what follows the block
makes no difference, and neither do complete lines before it.  So a record with a leaf between such
lines and any chain is listed and described by the attributes of the leaf.
-/
theorem first_block_decides :
    (∀ text, (∀ cause, Attributes.ofPem text ≠ .error (.missingPem cause)) →
        ∀ more, Attributes.ofPem (text ++ more) = Attributes.ofPem text) ∧
      (∀ front, Pem.IsPreamble front →
        ∀ text, Attributes.ofPem (Pem.completeLines front ++ text) = Attributes.ofPem text) ∧
      ∀ front leaf chain attributes, Pem.IsPreamble front → Attributes.ofPem leaf = .ok attributes →
        ∀ (b : MemoryBackend) (record : StoredRecord), record ∈ b.records →
          b.failure? record.mount = none →
          record.pem = Pem.completeLines front ++ leaf ++ chain →
          (∀ mounts, record.mount ∈ mounts → ∃ certificates,
            (freshListing server mounts b).1 = .ok certificates ∧
              certificateOf record.mount (b.revokedOf record.mount) record.serial attributes ∈
                certificates) ∧
          ∀ (v : VaultClient) (id : String), v.resolve id = .ok (record.mount, record.serial) →
            (v.details server id b).1 =
              .ok { CertificateDetails.ofAttributes (ofMount record.mount record.serial)
                      record.serial attributes record.pem with
                    certificate := certificateOf record.mount (b.revokedOf record.mount)
                      record.serial attributes } := by
  refine ⟨fun text hpresent => Attributes.ofPem_append hpresent,
    fun front hfront => Attributes.ofPem_completeLines_append hfront, ?_⟩
  intro front leaf chain attributes hfront hleaf b record hmem hworks htext
  have hread : Attributes.ofPem record.pem = .ok attributes := by
    rw [htext, Attributes.ofPem_surrounded hfront hleaf]
  constructor
  · intro mounts hmount
    rw [(freshListing_apply b mounts).1]
    exact exists_listing_of_mem hmem hworks hread hmount
  · intro v id hresolve
    rw [(details_apply v id b).1, hresolve]
    change b.detailsOutcome record.mount record.serial = _
    rw [detailsOutcome, readOutcome_of_mem hmem hworks hread]
    rfl

def tornArmour : String := "-----BEGIN CERTIFICATE-----\nAAAA\n"

/-- A leaf with a stray end line before it and the torn armour of an issuer after it. -/
def sampleChain : StoredRecord :=
  { mount := "pki"
    serial := "01"
    pem := Pem.completeLines ["subject=CN = a", "-----END CERTIFICATE-----"] ++ samplePem ++
      tornArmour }

theorem first_block_decides_of_sample :
    Attributes.ofPem (samplePem ++ "-----BEGIN") = .ok sampleAttributes ∧
      Attributes.ofPem sampleChain.pem = Attributes.ofPem (samplePem ++ tornArmour) ∧
      ∃ certificates details,
        (freshListing server ["down", "pki"] (empty.insert sampleChain)).1 = .ok certificates ∧
        sampleCertificate "pki:01" ∈ certificates ∧
        ((start "v" ["down", "pki"] 60000 none).details server "pki:01"
          (empty.insert sampleChain)).1 = .ok details ∧
        details.fingerprintSha256 = sampleAttributes.fingerprintSha256 := by
  obtain ⟨htail, hlead, hrecord⟩ := first_block_decides
  have hfront : Pem.IsPreamble ["subject=CN = a", "-----END CERTIFICATE-----"] := by decide
  have hpresent : ∀ cause, Attributes.ofPem samplePem ≠ .error (.missingPem cause) := by
    intro cause
    rw [ofPem_sample]
    exact fun h => nomatch h
  obtain ⟨hlisted, hdetails⟩ := hrecord _ samplePem tornArmour _ hfront ofPem_sample
    (empty.insert sampleChain) sampleChain (List.mem_cons_self ..) rfl rfl
  obtain ⟨certificates, hlisting, hmem⟩ := hlisted ["down", "pki"] (by decide)
  refine ⟨?_, ?_, certificates, _, hlisting, hmem, hdetails _ "pki:01" (by decide), rfl⟩
  · rw [htail samplePem hpresent, ofPem_sample]
  · rw [sampleChain, String.append_assoc, hlead _ hfront]

end VaultClient
end CertCatalog
