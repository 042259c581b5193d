import CertCatalog.Proofs.Certificate
import CertCatalog.Proofs.Vault.Listing
import Mathlib.Data.List.Perm.Basic

/-!
# What a listing from the server holds

A listing that is read from the server has one certificate for each record that can be read, once
for each time that the mount of the record is listed.  The main statement says this of the stored
records themselves, whatever the order in which they are asked for: a mount that does not answer is
passed over unless no mount answers, and a record that cannot be decoded takes away nothing but its
own certificates.
-/

namespace CertCatalog

open CertCatalog.VaultClient

namespace MemoryBackend

/-! ## Records and their certificates -/

/-- The certificate that a record stands for, absent when it cannot be read or decoded. -/
def decoded? (b : MemoryBackend) (record : StoredRecord) : Option Certificate :=
  match b.failure? record.mount, Attributes.ofPem record.pem with
  | none, .ok attributes =>
      some
        { id := record.mount ++ ":" ++ record.serial
          commonName := attributes.commonName
          sans := attributes.sans
          createdAt := attributes.notBefore
          expiresAt := attributes.notAfter
          revoked := b.revoked.contains (record.mount, record.serial) }
  | _, _ => none

theorem decoded?_of_ofPem {b : MemoryBackend} {record : StoredRecord} {attributes : Attributes}
    (hfailure : b.failure? record.mount = none)
    (hattributes : Attributes.ofPem record.pem = .ok attributes) :
    b.decoded? record =
      some { Certificate.ofAttributes (CertificateId.ofMount record.mount record.serial) attributes
        with revoked := b.revoked.contains record.place } := by
  simp only [decoded?, hfailure, hattributes]
  rfl

theorem decoded?_of_ofPem_error {b : MemoryBackend} {record : StoredRecord} {e : DecodeError}
    (hgarbage : Attributes.ofPem record.pem = .error e) : b.decoded? record = none := by
  simp only [decoded?, hgarbage]
  cases b.failure? record.mount <;> rfl

def entriesOf (b : MemoryBackend) (mount : String) : List Certificate :=
  (b.records.filter (·.mount == mount)).filterMap b.decoded?

theorem records_perm_of_mem {b : MemoryBackend} {record : StoredRecord}
    (hmem : record ∈ b.records) :
    b.records.Perm (record :: b.records.filter (·.place != record.place)) := by
  obtain ⟨before, after, hsplit⟩ := List.append_of_mem hmem
  have hplaces := b.places_nodup
  rw [hsplit, List.map_append, List.map_cons, List.nodup_middle, List.nodup_cons,
    ← List.map_append] at hplaces
  -- No other record has the place of this one, so the filter drops this one only.
  have hkept : (before ++ after).filter (·.place != record.place) = before ++ after := by
    rw [List.filter_eq_self]
    intro other hother
    rw [bne_iff_ne]
    intro hplace
    exact hplaces.1 (hplace ▸ List.mem_map_of_mem hother)
  have hfilter : b.records.filter (·.place != record.place) = before ++ after := by
    rw [← hkept, hsplit, List.filter_append, List.filter_append, List.filter_cons_of_neg (by simp)]
  rw [hfilter, hsplit]
  exact List.perm_middle

theorem pem?_of_mem {b : MemoryBackend} {record : StoredRecord} (hmem : record ∈ b.records) :
    b.pem? record.mount record.serial = some record.pem := by
  unfold pem?
  cases hfind : b.records.find? (·.place == (record.mount, record.serial)) with
  | none => simpa [StoredRecord.place] using List.find?_eq_none.mp hfind record hmem
  | some found =>
      have hplace : found.place = record.place := by
        simpa [StoredRecord.place] using List.find?_some hfind
      have hsame : found = record :=
        List.inj_on_of_nodup_map b.places_nodup (List.mem_of_find?_eq_some hfind) hmem hplace
      rw [hsame]
      rfl

theorem certificate?_of_mem {b : MemoryBackend} {record : StoredRecord}
    (hmem : record ∈ b.records) :
    b.certificate? record.mount record.serial = b.decoded? record := by
  unfold certificate? readOutcome pemOutcome decoded?
  cases hfailure : b.failure? record.mount with
  | some e => rfl
  | none =>
      rw [pem?_of_mem hmem]
      cases hattributes : Attributes.ofPem record.pem with
      | error e => simp only [hattributes]
      | ok attributes =>
          have hrevoked : (b.revokedOf record.mount).contains record.serial =
              b.revoked.contains (record.mount, record.serial) := by
            rw [Bool.eq_iff_iff, List.contains_iff_mem, List.contains_iff_mem, mem_revokedOf]
          simp only [hattributes, certificateOf_eq, hrevoked]
          rfl

/-! ## Mounts that answer -/

/-- The mount answers both calls that a listing makes for it as a whole. -/
def Answers (b : MemoryBackend) (mount : String) : Prop :=
  (∃ serials, (server.listSerials mount b).1 = .ok serials) ∧
    ∃ revoked, (server.listRevoked mount b).1 = .ok revoked

theorem not_answers_iff {b : MemoryBackend} {mount : String} :
    ¬ b.Answers mount ↔ ∃ e, b.failure? mount = some e := by
  simp only [Answers, listSerials_apply, listRevoked_apply, answerOf]
  cases b.failure? mount <;> simp

theorem listSerials_eq_error_iff {b : MemoryBackend} {mount : String} {e : CatalogError} :
    (server.listSerials mount b).1 = .error e ↔ b.failure? mount = some e := by
  simp only [listSerials_apply, answerOf]
  cases b.failure? mount <;> simp

theorem mountListing_eq_error_iff {b : MemoryBackend} {mount : String} {e : CatalogError} :
    b.mountListing mount = .error e ↔ b.failure? mount = some e := by
  simp only [mountListing, answerOf]
  cases b.failure? mount <;> simp

/-! ## Listings -/

theorem gathered_singleton_perm (b : MemoryBackend) (mount : String) :
    (gathered [b.mountListing mount]).Perm (b.entriesOf mount) := by
  have hentries : b.entriesOf mount =
      ((b.records.filter (·.mount == mount)).map (·.serial)).filterMap (b.certificate? mount) := by
    rw [entriesOf, List.filterMap_map]
    refine List.filterMap_congr fun record hmem => ?_
    obtain ⟨hrecord, hmount⟩ := List.mem_filter.mp hmem
    rw [← certificate?_of_mem hrecord, eq_of_beq hmount]
    rfl
  unfold mountListing answerOf
  cases hfailure : b.failure? mount with
  | some e =>
      have hnone : b.entriesOf mount = [] := by
        rw [entriesOf, List.filterMap_eq_nil_iff]
        intro record hmem
        have hmount := eq_of_beq (List.mem_filter.mp hmem).2
        simp only [decoded?, hmount, hfailure]
      rw [hnone]
      exact .refl []
  | none =>
      have hgathered : gathered [.ok ((b.serialsOf mount).filterMap (b.certificate? mount))] =
          (b.serialsOf mount).filterMap (b.certificate? mount) := List.append_nil _
      rw [hgathered, hentries]
      exact (List.mergeSort_perm _ _).filterMap _

theorem perm_of_listing {b : MemoryBackend} {mounts : List String}
    {certificates : List Certificate} (hok : b.listing mounts = .ok certificates) :
    certificates.Perm (mounts.flatMap b.entriesOf) := by
  have hgathered : gathered (mounts.map b.mountListing) =
      mounts.flatMap fun mount => gathered [b.mountListing mount] := by
    simp only [gathered, List.flatMap_map, List.flatMap_cons, List.flatMap_nil, List.append_nil]
  rw [joinListings_eq_ok hok, hgathered]
  exact (Certificate.sort_perm _).trans
    (List.Perm.flatMap_left _ fun mount _ => b.gathered_singleton_perm mount)

theorem listing_eq_error_iff {b : MemoryBackend} {mounts : List String} {e : CatalogError} :
    b.listing mounts = .error e ↔
      (∀ mount ∈ mounts, ∃ e, b.failure? mount = some e) ∧
        ∃ last, mounts.getLast? = some last ∧ b.failure? last = some e := by
  by_cases hne : mounts = []
  · subst hne
    simp [listing, joinListings, lastError?]
  · have hnonempty : mounts.map b.mountListing ≠ [] := by simpa using hne
    rw [listing, joinListings_eq_error_iff hnonempty]
    simp only [List.forall_mem_map, List.getLast?_map, Option.map_eq_some_iff,
      mountListing_eq_error_iff]

theorem exists_error_listing_iff {b : MemoryBackend} {mounts : List String} :
    (∃ e, b.listing mounts = .error e) ↔
      mounts ≠ [] ∧ ∀ mount ∈ mounts, ∃ e, b.failure? mount = some e := by
  simp only [listing_eq_error_iff]
  constructor
  · rintro ⟨e, hfailed, last, hlast, -⟩
    refine ⟨?_, hfailed⟩
    rintro rfl
    cases hlast
  · rintro ⟨hne, hfailed⟩
    obtain ⟨last, hlast⟩ := Option.isSome_iff_exists.mp (List.getLast?_isSome.mpr hne)
    obtain ⟨e, herror⟩ := hfailed last (List.mem_of_getLast? hlast)
    exact ⟨e, hfailed, last, hlast, herror⟩

/-- Records have no part in whether a listing fails. -/
theorem listing_insert_eq_error_iff {b : MemoryBackend} {record : StoredRecord}
    {mounts : List String} {e : CatalogError} :
    (b.insert record).listing mounts = .error e ↔ b.listing mounts = .error e := by
  rw [listing_eq_error_iff, listing_eq_error_iff]
  rfl

/-! ## A record that loses its text -/

theorem entriesOf_perm_of_garbage {b : MemoryBackend} {record : StoredRecord}
    (hmem : record ∈ b.records) {garbage : String} {e : DecodeError}
    (hgarbage : Attributes.ofPem garbage = .error e) (mount : String) :
    (b.entriesOf mount).Perm
      ((if record.mount = mount then (b.decoded? record).toList else []) ++
        (b.insert { record with pem := garbage }).entriesOf mount) := by
  have hlost : b.decoded? { record with pem := garbage } = none := decoded?_of_ofPem_error hgarbage
  have hsame : (b.insert { record with pem := garbage }).decoded? = b.decoded? := rfl
  have hrecords : (b.insert { record with pem := garbage }).records =
      { record with pem := garbage } :: b.records.filter (·.place != record.place) := rfl
  have hentries := ((records_perm_of_mem hmem).filter (·.mount == mount)).filterMap b.decoded?
  unfold entriesOf
  rw [hsame, hrecords]
  by_cases hmount : record.mount = mount
  · subst hmount
    have hpos : (record.mount == record.mount) = true := beq_self_eq_true _
    rw [List.filter_cons_of_pos (by exact hpos)] at hentries ⊢
    rw [if_pos rfl, List.filterMap_cons_none hlost]
    cases hentry : b.decoded? record with
    | none => rwa [List.filterMap_cons_none hentry] at hentries
    | some c => rwa [List.filterMap_cons_some hentry] at hentries
  · have hneg : ¬ (record.mount == mount) = true := by simpa using hmount
    rw [List.filter_cons_of_neg (by exact hneg)] at hentries ⊢
    rwa [if_neg hmount]

theorem flatMap_toList_eq_replicate (mounts : List String) (lost : String)
    (entry : Option Certificate) :
    (mounts.flatMap fun mount => if lost = mount then entry.toList else []) =
      entry.toList.flatMap (List.replicate (mounts.count lost)) := by
  cases entry with
  | none => simp
  | some c =>
      induction mounts with
      | nil => rfl
      | cons mount rest ih =>
          rw [List.flatMap_cons, ih]
          by_cases hmount : lost = mount
          · subst hmount
            simp [List.replicate_succ]
          · simp [hmount, eq_comm]

theorem flatMap_entriesOf_perm_of_garbage {b : MemoryBackend} {record : StoredRecord}
    (hmem : record ∈ b.records) {garbage : String} {e : DecodeError}
    (hgarbage : Attributes.ofPem garbage = .error e) (mounts : List String) :
    (mounts.flatMap b.entriesOf).Perm
      ((b.decoded? record).toList.flatMap (List.replicate (mounts.count record.mount)) ++
        mounts.flatMap (b.insert { record with pem := garbage }).entriesOf) := by
  rw [← flatMap_toList_eq_replicate]
  exact (List.Perm.flatMap_left mounts fun mount _ =>
    entriesOf_perm_of_garbage hmem hgarbage mount).trans (List.flatMap_append_perm _ _ _).symm

end MemoryBackend

namespace VaultClient

open CertCatalog.MemoryBackend

/-! ## Fresh listings -/

theorem list_of_uncached {v : VaultClient} {now : Nat} (hnone : v.cached? now = none)
    (b : MemoryBackend) : (list server now (v, b)).1 = b.listing v.mounts := by
  unfold list
  rw [← (freshListing_apply b v.mounts).1]
  simp only [hnone]
  cases hfresh : freshListing server v.mounts b with
  | mk outcome after => cases outcome <;> rfl

def patchyClient : VaultClient :=
  .start "v" ["pki", "down", "ca", "pki"] 60000 none

/-- Two records with one serial, of which one is revoked, and one that cannot be decoded. -/
def patchyServer : MemoryBackend :=
  (((sampleServer [("ca", "01"), ("pki", "01")]).insert ⟨"pki", "02", ""⟩).markRevoked
    "pki" "01").apply (.failMount "down" .sealed)

end VaultClient
end CertCatalog
