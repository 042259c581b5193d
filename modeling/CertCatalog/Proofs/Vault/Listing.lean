import CertCatalog.Proofs.Action
import CertCatalog.Proofs.Source
import CertCatalog.Proofs.Vault.Memory
import CertCatalog.Vault.Client

/-!
# Listings of a server in memory

What a listing says as a plain function of what the server holds.  A client that reads from the
server computes this function, and a cached listing agrees with it as long as the server holds the
same as when the listing was read.
-/

namespace CertCatalog

open CertCatalog.VaultClient

/-! ## One certificate -/

theorem VaultClient.certificateOf_eq (mount : String) (revoked : List String) (serial : String)
    (attributes : Attributes) :
    certificateOf mount revoked serial attributes =
      { Certificate.ofAttributes (CertificateId.ofMount mount serial) attributes with
        revoked := revoked.contains serial } := by
  unfold certificateOf
  cases revoked.contains serial <;> rfl

/-! ## What a server holds, as certificates -/

namespace MemoryBackend

def pemOutcome (b : MemoryBackend) (mount serial : String) : Outcome String :=
  match b.failure? mount with
  | some e => .error e
  | none =>
      match b.pem? mount serial with
      | some pem => .ok pem
      | none => .error (.notFound mount serial)

def readOutcome (b : MemoryBackend) (mount serial : String) : Outcome (String × Attributes) :=
  match b.pemOutcome mount serial with
  | .ok pem =>
      match Attributes.ofPem pem with
      | .ok attributes => .ok (pem, attributes)
      | .error e => .error (.decode mount serial e.message)
  | .error e => .error e

/-- The certificate of a mount and a serial, absent when its record cannot be read. -/
def certificate? (b : MemoryBackend) (mount serial : String) : Option Certificate :=
  match b.readOutcome mount serial with
  | .ok (_, attributes) => some (certificateOf mount (b.revokedOf mount) serial attributes)
  | .error _ => none

def mountListing (b : MemoryBackend) (mount : String) : Outcome (List Certificate) :=
  b.answerOf mount ((b.serialsOf mount).filterMap (b.certificate? mount))

def listing (b : MemoryBackend) (mounts : List String) : Outcome (List Certificate) :=
  joinListings (mounts.map b.mountListing)

/-! ## Only the contents matter -/

namespace SameContents

variable {a b : MemoryBackend}

theorem pemOutcome_eq (h : SameContents a b) (mount serial : String) :
    a.pemOutcome mount serial = b.pemOutcome mount serial := by
  simp only [pemOutcome, h.failure?_eq, h.pem?_eq]

theorem readOutcome_eq (h : SameContents a b) (mount serial : String) :
    a.readOutcome mount serial = b.readOutcome mount serial := by
  simp only [readOutcome, h.pemOutcome_eq]

theorem mountListing_eq (h : SameContents a b) (mount : String) :
    a.mountListing mount = b.mountListing mount := by
  have hcertificate : a.certificate? mount = b.certificate? mount := by
    funext serial
    simp only [certificate?, h.readOutcome_eq, h.revokedOf_eq]
  simp only [mountListing, answerOf, h.failure?_eq, h.serialsOf_eq, hcertificate]

theorem listing_eq (h : SameContents a b) (mounts : List String) :
    a.listing mounts = b.listing mounts := by
  simp only [listing, funext h.mountListing_eq]

end SameContents

/-! ## Reading from the server -/

theorem readPem_apply (b : MemoryBackend) (mount serial : String) :
    readPem server mount serial b = (b.pemOutcome mount serial, b.countRead) := by
  simp only [readPem, Action.bind_apply, readRecord_apply, answerOf, pemOutcome]
  cases b.failure? mount with
  | some e => rfl
  | none => cases b.pem? mount serial <;> rfl

theorem readAttributes_apply (b : MemoryBackend) (mount serial : String) :
    readAttributes server mount serial b = (b.readOutcome mount serial, b.countRead) := by
  simp only [readAttributes, Action.bind_apply, readPem_apply, readOutcome]
  cases b.pemOutcome mount serial with
  | error e => rfl
  | ok pem =>
      dsimp only
      cases Attributes.ofPem pem <;> rfl

private theorem readable_map (b : MemoryBackend) (mount : String) (serials : List String) :
    readable mount (b.revokedOf mount) serials (serials.map (b.readOutcome mount)) =
      serials.filterMap (b.certificate? mount) := by
  induction serials with
  | nil => rfl
  | cons serial serials ih =>
      rw [List.filterMap_cons, List.map_cons, certificate?]
      cases b.readOutcome mount serial with
      | error e => simpa [readable] using ih
      | ok found => simpa [readable] using ih

theorem listMount_apply (b : MemoryBackend) (mount : String) :
    (listMount server mount b).1 = b.mountListing mount ∧
      SameContents b (listMount server mount b).2 := by
  have hanswer : ∀ {α : Type} (value : α), b.countListing.answerOf mount value =
      b.answerOf mount value := fun _ => rfl
  cases hfailure : b.failure? mount with
  | some e =>
      have hserials : server.listSerials mount b = (.error e, b.countListing) := by
        simp only [listSerials_apply, answerOf, hfailure]
      rw [listMount, Action.bind_of_error hserials]
      exact ⟨by simp only [mountListing, answerOf, hfailure], .countListing b⟩
  | none =>
      have hserials : server.listSerials mount b = (.ok (b.serialsOf mount), b.countListing) := by
        simp only [listSerials_apply, answerOf, hfailure]
      have hrevoked : server.listRevoked mount b.countListing =
          (.ok (b.revokedOf mount), b.countListing.countRevokedListing) := by
        rw [listRevoked_apply, hanswer, answerOf, hfailure]
        rfl
      have hrun : listMount server mount b =
          (.ok (readable mount (b.revokedOf mount) (b.serialsOf mount)
              (Action.attemptAll (readAttributes server mount) (b.serialsOf mount)
                b.countListing.countRevokedListing).1),
            (Action.attemptAll (readAttributes server mount) (b.serialsOf mount)
              b.countListing.countRevokedListing).2) :=
        (Action.bind_of_ok hserials).trans (Action.bind_of_ok hrevoked)
      obtain ⟨houtcomes, hafter⟩ := Action.attemptAll_eq_map (SameContents b)
        (b.readOutcome mount) (readAttributes server mount)
        (fun serial _ s hs => by
          rw [readAttributes_apply]
          exact ⟨(hs.readOutcome_eq mount serial).symm, hs.trans (.countRead s)⟩)
        ((SameContents.countListing b).trans (.countRevokedListing _))
      rw [hrun, houtcomes, readable_map, mountListing, answerOf, hfailure]
      exact ⟨rfl, hafter⟩

theorem freshListing_apply (b : MemoryBackend) (mounts : List String) :
    (freshListing server mounts b).1 = b.listing mounts ∧
      SameContents b (freshListing server mounts b).2 := by
  obtain ⟨houtcomes, hafter⟩ := Action.attemptAll_eq_map (SameContents b) b.mountListing
    (listMount server)
    (fun mount _ s hs =>
      ⟨(listMount_apply s mount).1.trans (hs.mountListing_eq mount).symm,
        hs.trans (listMount_apply s mount).2⟩)
    (SameContents.refl b)
  exact ⟨congrArg joinListings houtcomes, hafter⟩

/-! ## Members -/

theorem readOutcome_eq_ok {b : MemoryBackend} {mount serial pem : String}
    {attributes : Attributes} :
    b.readOutcome mount serial = .ok (pem, attributes) ↔
      b.pemOutcome mount serial = .ok pem ∧ Attributes.ofPem pem = .ok attributes := by
  unfold readOutcome
  cases b.pemOutcome mount serial with
  | error e => simp
  | ok text =>
      dsimp only
      constructor
      · intro hread
        split at hread
        · next hattributes =>
            cases hread
            exact ⟨rfl, hattributes⟩
        · contradiction
      · rintro ⟨htext, hattributes⟩
        cases htext
        rw [hattributes]

theorem certificate?_eq_some {b : MemoryBackend} {mount serial : String} {c : Certificate} :
    b.certificate? mount serial = some c ↔
      ∃ pem attributes, b.readOutcome mount serial = .ok (pem, attributes) ∧
        c = certificateOf mount (b.revokedOf mount) serial attributes := by
  unfold certificate?
  cases b.readOutcome mount serial with
  | error e => simp
  | ok found =>
      obtain ⟨pem, attributes⟩ := found
      simp [eq_comm]

theorem exists_record_of_listing {b : MemoryBackend} {mounts : List String}
    {certificates : List Certificate} (hok : b.listing mounts = .ok certificates)
    {c : Certificate} (hc : c ∈ certificates) :
    ∃ mount ∈ mounts, ∃ serial ∈ b.serialsOf mount, ∃ pem attributes,
      b.readOutcome mount serial = .ok (pem, attributes) ∧
        c = certificateOf mount (b.revokedOf mount) serial attributes := by
  obtain ⟨listed, hlisted, hmem⟩ := (mem_of_joinListings hok).mp hc
  obtain ⟨mount, hmount, hlisting⟩ := List.mem_map.mp hlisted
  unfold mountListing answerOf at hlisting
  split at hlisting
  · contradiction
  · cases hlisting
    obtain ⟨serial, hserial, hcertificate⟩ := List.mem_filterMap.mp hmem
    exact ⟨mount, hmount, serial, hserial, certificate?_eq_some.mp hcertificate⟩

theorem mem_revokedOf {b : MemoryBackend} {mount serial : String} :
    serial ∈ b.revokedOf mount ↔ (mount, serial) ∈ b.revoked := by
  simp [revokedOf]

theorem revoked_certificateOf {b : MemoryBackend} {mount serial : String}
    {attributes : Attributes} :
    (certificateOf mount (b.revokedOf mount) serial attributes).revoked = true ↔
      (mount, serial) ∈ b.revoked := by
  rw [certificateOf_eq, List.contains_iff_mem, mem_revokedOf]

end MemoryBackend

/-! ## A record that can be read -/

/-- A certificate of the name "a" for the year 2025, with nothing that it need not have. -/
def samplePem : String :=
  "-----BEGIN CERTIFICATE-----\n" ++
  "ME8wRAIBATAEBgIqAzAAMB4XDTI1MDEwMTAwMDAwMFoXDTI2MDEwMTAwMDAwMFowDDEKMAgGA1UEAwwBYTAJMAQG\n" ++
  "AioDAwEAMAQGAioDAwEA\n" ++
  "-----END CERTIFICATE-----\n"

def sampleAttributes : Attributes :=
  { commonName := "a"
    sans := []
    notBefore := (Instant.ofUnixSeconds? 1735689600).getD .epoch
    notAfter := (Instant.ofUnixSeconds? 1767225600).getD .epoch
    issuer := ""
    subject := "CN=a"
    keyAlgorithm := "1.2.3"
    keySize := 0
    fingerprintSha1 := "04381d812fb95786c8f09c0f329d6b902e4b8fe1"
    fingerprintSha256 := "ef3ac96a540ad3ed3168a34783ab027af441f4e1a067d55ecd5596e343a463f7"
    usage := [] }

theorem ofPem_sample : Attributes.ofPem samplePem = .ok sampleAttributes := by
  decide +kernel

def sampleCertificate (id : String) : Certificate :=
  .ofAttributes id sampleAttributes

def sampleServer (places : List (String × String)) : MemoryBackend :=
  places.foldl (fun b place => b.insert ⟨place.1, place.2, samplePem⟩) .empty

namespace MemoryBackend

theorem readOutcome_sample (mount serial : String) :
    (sampleServer [(mount, serial)]).readOutcome mount serial =
      .ok (samplePem, sampleAttributes) := by
  simp [readOutcome_eq_ok, pemOutcome, sampleServer, MemoryBackend.insert, pem?, failure?, empty,
    StoredRecord.place, ofPem_sample]

theorem serialsOf_sample (mount serial : String) :
    (sampleServer [(mount, serial)]).serialsOf mount = [serial] := by
  simp [sampleServer, serialsOf, MemoryBackend.insert, empty]

theorem certificate?_sample (mount serial : String) :
    (sampleServer [(mount, serial)]).certificate? mount serial =
      some (sampleCertificate (CertificateId.ofMount mount serial)) :=
  certificate?_eq_some.mpr ⟨samplePem, sampleAttributes, readOutcome_sample mount serial, rfl⟩

theorem listing_sample (mount serial : String) :
    (sampleServer [(mount, serial)]).listing [mount] =
      .ok [sampleCertificate (CertificateId.ofMount mount serial)] := by
  have hmount : (sampleServer [(mount, serial)]).mountListing mount =
      .ok [sampleCertificate (CertificateId.ofMount mount serial)] := by
    simp only [mountListing, serialsOf_sample, List.filterMap_cons, List.filterMap_nil,
      certificate?_sample]
    rfl
  rw [listing, List.map_singleton, hmount, joinListings_of_isOk (List.mem_singleton_self _) rfl]
  exact congrArg Except.ok (List.mergeSort_singleton _)

end MemoryBackend

/-! ## Listings of a client -/

namespace VaultClient

open CertCatalog.MemoryBackend

@[simp] theorem cached?_keep_self (v : VaultClient) (certificates : List Certificate)
    (now later : Nat) :
    (v.keep certificates now).cached? later =
      if now + v.cache.ttl ≤ later then none else some certificates :=
  TtlCache.get?_insert_self v.cache listingKey certificates now later

theorem le_of_lastSweep? {v : VaultClient} {before after time : Nat}
    (hsweep : v.lastSweep? before after = some time) : time ≤ after := by
  unfold lastSweep? at hsweep
  split at hsweep
  · next interval _ =>
      have hle : after / interval * interval ≤ after := Nat.div_mul_le_self _ _
      dsimp only at hsweep
      split at hsweep
      · contradiction
      · cases hsweep
        exact hle
  · contradiction

/--
What is cached at the time `now` was read from a server that held what this one holds: the server
has not changed since, or it has changed back.
-/
def IsCurrent (v : VaultClient) (b : MemoryBackend) (now : Nat) : Prop :=
  ∀ certificates, v.cached? now = some certificates →
    ∃ earlier, SameContents earlier b ∧
      (freshListing server v.mounts earlier).1 = .ok certificates

theorem IsCurrent.listing_eq {v : VaultClient} {b : MemoryBackend} {now : Nat}
    (hcurrent : v.IsCurrent b now) {certificates : List Certificate}
    (hcached : v.cached? now = some certificates) : b.listing v.mounts = .ok certificates := by
  obtain ⟨earlier, hsame, hlisting⟩ := hcurrent certificates hcached
  rw [← hsame.listing_eq, ← (freshListing_apply earlier v.mounts).1, hlisting]

theorem IsCurrent.of_sameContents {v : VaultClient} {b other : MemoryBackend} {now : Nat}
    (hcurrent : v.IsCurrent b now) (hsame : SameContents b other) : v.IsCurrent other now := by
  intro certificates hcached
  obtain ⟨earlier, hearlier, hlisting⟩ := hcurrent certificates hcached
  exact ⟨earlier, hearlier.trans hsame, hlisting⟩

theorem isCurrent_keep {v : VaultClient} {b : MemoryBackend} {certificates : List Certificate}
    (hlisting : b.listing v.mounts = .ok certificates) (now later : Nat) :
    (v.keep certificates now).IsCurrent b later := by
  intro cached hcached
  rw [cached?_keep_self] at hcached
  split at hcached
  · contradiction
  · cases hcached
    exact ⟨b, .refl b, (freshListing_apply b v.mounts).1.trans hlisting⟩

/--
A client whose cache is current lists what the server holds, whether it reads or not, and is current
afterwards.
-/
theorem list_of_isCurrent {v : VaultClient} {b : MemoryBackend} {now : Nat}
    (hcurrent : v.IsCurrent b now) :
    ∃ w after, list server now (v, b) = (b.listing v.mounts, w, after) ∧ w.mounts = v.mounts ∧
      SameContents b after ∧ w.IsCurrent after now := by
  unfold list
  cases hcached : v.cached? now with
  | some certificates =>
      refine ⟨v, b, ?_, rfl, .refl b, hcurrent⟩
      simp only [hcached, hcurrent.listing_eq hcached]
  | none =>
      obtain ⟨hlisting, hafter⟩ := freshListing_apply b v.mounts
      simp only [hcached]
      cases hfresh : freshListing server v.mounts b with
      | mk outcome after =>
          rw [hfresh] at hlisting hafter
          cases outcome with
          | error e =>
              exact ⟨v, after, by rw [← hlisting], rfl, hafter, hcurrent.of_sameContents hafter⟩
          | ok certificates =>
              have hkept : after.listing v.mounts = .ok certificates := by
                rw [← hafter.listing_eq, ← hlisting]
              exact ⟨v.keep certificates now, after, by rw [← hlisting], rfl, hafter,
                isCurrent_keep hkept now now⟩

end VaultClient
end CertCatalog
