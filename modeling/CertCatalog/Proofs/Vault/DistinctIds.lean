import CertCatalog.Proofs.CertificateId
import CertCatalog.Proofs.Vault.CompleteListing
import CertCatalog.Proofs.Vault.Invariants
import Mathlib.Data.List.Flatten
import Mathlib.Data.List.Induction

/-!
# Distinct ids

Ids are made of a mount and a serial, and nothing looks for repetitions in a listing.  That no id
stands twice in it is a matter of the mounts and of the server: the mounts must be apart, so that no
two of them share an id, and the server may not list a serial of a mount twice.
-/

namespace CertCatalog

open CertCatalog.CertificateId

variable {σ : Type}

/--
As long as its state has the invariant, which all operations leave, the server lists no serial of a
mount twice.
-/
structure Server.NeverRepeats (server : Server σ) (invariant : σ → Prop) : Prop extends
    server.Keeps invariant where
  nodup : ∀ mount s serials, invariant s → (server.listSerials mount s).1 = .ok serials →
    serials.Nodup

namespace MemoryBackend

theorem nodup_serialsOf (b : MemoryBackend) (mount : String) : (b.serialsOf mount).Nodup := by
  rw [serialsOf, (List.mergeSort_perm _ _).nodup_iff]
  refine List.Nodup.map_on ?_ ((List.Nodup.of_map _ b.places_nodup).filter _)
  intro record hrecord other hother hserial
  obtain ⟨hmem, hmount⟩ := List.mem_filter.mp hrecord
  obtain ⟨hmem', hmount'⟩ := List.mem_filter.mp hother
  have hplace : record.place = other.place :=
    Prod.ext ((eq_of_beq hmount).trans (eq_of_beq hmount').symm) hserial
  exact List.inj_on_of_nodup_map b.places_nodup hmem hmem' hplace

theorem server_neverRepeats : server.NeverRepeats fun _ => True where
  listSerials _ _ _ := trivial
  listRevoked _ _ _ := trivial
  readRecord _ _ _ _ := trivial
  revoke _ _ _ _ _ := trivial
  health _ _ := trivial
  checkToken _ _ := trivial
  readCrl _ _ _ := trivial
  rotateCrl _ _ _ := trivial
  nodup mount b serials _ hok := by
    rw [listSerials_apply, answerOf] at hok
    split at hok
    · contradiction
    · cases hok
      exact b.nodup_serialsOf mount

end MemoryBackend

/-! ## Listings from the server -/

namespace VaultClient

variable {server : Server σ} {invariant : σ → Prop}

theorem ids_readable_sublist (mount : String) (revoked serials : List String)
    (outcomes : List (Outcome (String × Attributes))) :
    ((readable mount revoked serials outcomes).map (·.id)).Sublist
      (serials.map (ofMount mount)) := by
  induction serials generalizing outcomes with
  | nil => cases outcomes <;> exact List.nil_sublist _
  | cons serial serials ih =>
      cases outcomes with
      | nil => exact List.nil_sublist _
      | cons outcome outcomes =>
          cases outcome with
          | error e => exact (ih outcomes).cons _
          | ok found =>
              rw [readable, List.map_cons, List.map_cons, certificateOf_eq]
              exact (ih outcomes).cons_cons _

def HasIdsOf (mount : String) (outcome : Outcome (List Certificate)) : Prop :=
  ∀ certificates, outcome = .ok certificates →
    (certificates.map (·.id)).Nodup ∧ ∀ c ∈ certificates, ∃ serial, c.id = ofMount mount serial

theorem exists_readable_of_listMount {mount : String} {s : σ} {certificates : List Certificate}
    (hok : (listMount server mount s).1 = .ok certificates) :
    ∃ serials revoked outcomes, (server.listSerials mount s).1 = .ok serials ∧
      certificates = readable mount revoked serials outcomes := by
  obtain ⟨serials, next, hserials, hrest⟩ := Action.exists_of_bind_ok hok
  obtain ⟨revoked, last, -, hread⟩ := Action.exists_of_bind_ok hrest
  cases hread
  exact ⟨serials, revoked, _, congrArg Prod.fst hserials, rfl⟩

theorem hasIdsOf_listMount (hserver : server.NeverRepeats invariant) (mount : String) {s : σ}
    (hs : invariant s) : HasIdsOf mount (listMount server mount s).1 := by
  intro certificates hok
  obtain ⟨serials, revoked, outcomes, hserials, rfl⟩ := exists_readable_of_listMount hok
  have hsublist := ids_readable_sublist mount revoked serials outcomes
  have hnodup : (serials.map (ofMount mount)).Nodup :=
    (hserver.nodup mount s serials hs hserials).map fun _ _ => ofMount_right_inj.mp
  refine ⟨hnodup.sublist hsublist, fun c hc => ?_⟩
  obtain ⟨serial, -, hid⟩ := List.mem_map.mp (hsublist.subset (List.mem_map_of_mem hc))
  exact ⟨serial, hid.symm⟩

theorem nodup_ids_gathered {mounts : List String} (hapart : MountsApart mounts)
    {listings : List (Outcome (List Certificate))}
    (hlistings : List.Forall₂ HasIdsOf mounts listings) :
    ((gathered listings).map (·.id)).Nodup := by
  induction hlistings with
  | nil => exact List.nodup_nil
  | @cons mount listing mounts listings hfirst hrest ih =>
      obtain ⟨hmount, hmounts⟩ := List.pairwise_cons.mp hapart
      cases listing with
      | error e => exact ih hmounts
      | ok certificates =>
          obtain ⟨hnodup, hids⟩ := hfirst certificates rfl
          have hsplit : gathered (.ok certificates :: listings) =
              certificates ++ gathered listings := rfl
          rw [hsplit, List.map_append, List.nodup_append]
          refine ⟨hnodup, ih hmounts, ?_⟩
          -- An id on both sides would be an id of two mounts that are apart.
          intro id hleft other hright heq
          obtain ⟨c, hc, rfl⟩ := List.mem_map.mp hleft
          obtain ⟨d, hd, rfl⟩ := List.mem_map.mp hright
          obtain ⟨listed, hlisted, hmem⟩ := mem_gathered.mp hd
          obtain ⟨otherMount, hother, hof⟩ := Action.exists_item_of_mem hrest hlisted
          obtain ⟨serial, hserial⟩ := hids c hc
          obtain ⟨number, hnumber⟩ := (hof listed rfl).2 d hmem
          obtain ⟨hne, hbelow, habove⟩ := hmount otherMount hother
          have hclash := exists_ofMount_eq_iff.mp
            ⟨serial, number, hserial.symm.trans (heq.trans hnumber)⟩
          tauto

theorem nodup_ids_freshListing (hserver : server.NeverRepeats invariant) {mounts : List String}
    (hapart : MountsApart mounts) {s : σ} (hs : invariant s) {certificates : List Certificate}
    (hok : (freshListing server mounts s).1 = .ok certificates) :
    (certificates.map (·.id)).Nodup := by
  obtain ⟨hlistings, -⟩ := Action.attemptAll_forall₂ invariant HasIdsOf (listMount server)
    (fun mount _ s hs => ⟨hasIdsOf_listMount hserver mount hs, hserver.listMount mount s hs⟩) hs
  rw [joinListings_eq_ok hok, ((Certificate.sort_perm _).map _).nodup_iff]
  exact nodup_ids_gathered hapart hlistings

/-! ## Listings of a client -/

structure HasDistinctIds (v : VaultClient) : Prop where
  mounts_apart : MountsApart v.mounts
  cached : v.CachesOnly fun certificates => (certificates.map (·.id)).Nodup

theorem HasDistinctIds.list (hserver : server.NeverRepeats invariant) {v : VaultClient}
    (h : v.HasDistinctIds) {s : σ} (hs : invariant s) (now : Nat) :
    (∀ certificates, (VaultClient.list server now (v, s)).1 = .ok certificates →
        (certificates.map (·.id)).Nodup) ∧
      (VaultClient.list server now (v, s)).2.1.HasDistinctIds := by
  obtain ⟨hlisted, hmounts, hcached⟩ := h.cached.list
    (fun certificates hok => nodup_ids_freshListing hserver h.mounts_apart hs hok) now
  exact ⟨hlisted, hmounts ▸ h.mounts_apart, hcached⟩

theorem hasDistinctIds_start {mounts : List String} (hapart : MountsApart mounts)
    (vaultId : String) (ttl : Nat) (sweepEvery : Option Nat) :
    (start vaultId mounts ttl sweepEvery).HasDistinctIds :=
  ⟨hapart, cachesOnly_start _ _ _ _ _⟩

theorem HasDistinctIds.invalidate {v : VaultClient} (h : v.HasDistinctIds) :
    v.invalidate.HasDistinctIds :=
  ⟨h.mounts_apart, .invalidate v _⟩

theorem HasDistinctIds.shutdown {v : VaultClient} (h : v.HasDistinctIds) :
    v.shutdown.HasDistinctIds :=
  ⟨h.mounts_apart, h.cached⟩

theorem HasDistinctIds.sweep {v : VaultClient} (h : v.HasDistinctIds) (time : Nat) :
    (v.sweep time).HasDistinctIds :=
  ⟨h.mounts_apart, h.cached.sweep time⟩

theorem HasDistinctIds.source (hserver : server.NeverRepeats invariant) (now : Nat) :
    (VaultClient.source server now).Keeps fun state =>
      state.1.HasDistinctIds ∧ invariant state.2 :=
  hserver.toKeeps.source (fun _ _ hv hs => (hv.list hserver hs now).2)
    (fun _ hv => hv.invalidate) (fun _ hv => hv.shutdown)

end VaultClient

/-! ## Mounts that are not apart -/

namespace MemoryBackend

theorem sampleServer_concat (places : List (String × String)) (place : String × String) :
    sampleServer (places ++ [place]) =
      (sampleServer places).insert ⟨place.1, place.2, samplePem⟩ := by
  rw [sampleServer, List.foldl_append]
  rfl

theorem failure?_sampleServer (places : List (String × String)) (mount : String) :
    (sampleServer places).failure? mount = none := by
  induction places using List.reverseRecOn with
  | nil => rfl
  | append_singleton places place ih =>
      rw [sampleServer_concat]
      exact ih

theorem revoked_sampleServer (places : List (String × String)) :
    (sampleServer places).revoked = [] := by
  induction places using List.reverseRecOn with
  | nil => rfl
  | append_singleton places place ih =>
      rw [sampleServer_concat]
      exact ih

theorem mem_records_sampleServer {places : List (String × String)} {place : String × String}
    (hmem : place ∈ places) : ⟨place.1, place.2, samplePem⟩ ∈ (sampleServer places).records := by
  induction places using List.reverseRecOn with
  | nil => cases hmem
  | append_singleton places last ih =>
      rw [sampleServer_concat]
      by_cases hlast : place = last
      · subst hlast
        exact List.mem_cons_self ..
      · have hearlier : place ∈ places := by simpa [hlast] using hmem
        exact List.mem_cons_of_mem _ (List.mem_filter.mpr ⟨ih hearlier, bne_iff_ne.mpr hlast⟩)

theorem pem_of_mem_sampleServer {places : List (String × String)} {record : StoredRecord}
    (hmem : record ∈ (sampleServer places).records) : record.pem = samplePem := by
  induction places using List.reverseRecOn with
  | nil => cases hmem
  | append_singleton places place ih =>
      rw [sampleServer_concat] at hmem
      rcases List.mem_cons.mp hmem with rfl | hearlier
      · rfl
      · exact ih (List.mem_of_mem_filter hearlier)

theorem entriesOf_sampleServer (places : List (String × String)) :
    (sampleServer places).entriesOf = fun mount =>
      ((sampleServer places).records.filter (·.mount == mount)).map fun record =>
        sampleCertificate (ofMount record.mount record.serial) := by
  funext mount
  rw [entriesOf, ← List.filterMap_eq_map]
  refine List.filterMap_congr fun record hmem => ?_
  have hattributes : Attributes.ofPem record.pem = .ok sampleAttributes := by
    rw [pem_of_mem_sampleServer (List.mem_of_mem_filter hmem)]
    exact ofPem_sample
  rw [decoded?_of_ofPem (failure?_sampleServer places record.mount) hattributes,
    revoked_sampleServer]
  rfl

theorem mem_entriesOf_sampleServer {places : List (String × String)} {place : String × String}
    (hmem : place ∈ places) :
    sampleCertificate (ofMount place.1 place.2) ∈ (sampleServer places).entriesOf place.1 := by
  rw [entriesOf_sampleServer]
  have hrecord := mem_records_sampleServer hmem
  exact List.mem_map.mpr
    ⟨_, List.mem_filter.mpr ⟨hrecord, beq_self_eq_true place.1⟩, rfl⟩

theorem exists_listing_sampleServer (places : List (String × String)) (mounts : List String) :
    ∃ certificates, (sampleServer places).listing mounts = .ok certificates := by
  cases hlisting : (sampleServer places).listing mounts with
  | ok certificates => exact ⟨certificates, rfl⟩
  | error e =>
      obtain ⟨-, last, -, hfailure⟩ := listing_eq_error_iff.mp hlisting
      rw [failure?_sampleServer] at hfailure
      contradiction

theorem exists_repeated_id {mounts : List String} (hnot : ¬ MountsApart mounts) :
    ∃ (b : MemoryBackend) (certificates : List Certificate),
      b.listing mounts = .ok certificates ∧ ¬ (certificates.map (·.id)).Nodup := by
  rw [MountsApart, List.pairwise_iff_forall_sublist] at hnot
  push Not at hnot
  obtain ⟨mount, other, hsublist, hclash⟩ := hnot
  have hshared : mount = other ∨ IsBelow mount other ∨ IsBelow other mount := by tauto
  obtain ⟨serial, number, hid⟩ := exists_ofMount_eq_iff.mpr hshared
  let places := [(mount, serial), (other, number)]
  have hfirst : sampleCertificate (ofMount mount serial) ∈ (sampleServer places).entriesOf mount :=
    @mem_entriesOf_sampleServer places (mount, serial) (by simp [places])
  have hsecond : sampleCertificate (ofMount other number) ∈ (sampleServer places).entriesOf other :=
    @mem_entriesOf_sampleServer places (other, number) (by simp [places])
  obtain ⟨certificates, hlisting⟩ := exists_listing_sampleServer places mounts
  refine ⟨sampleServer places, certificates, hlisting, fun hnodup => ?_⟩
  rw [((perm_of_listing hlisting).map _).nodup_iff] at hnodup
  have hpair := hnodup.sublist ((hsublist.flatMap (sampleServer places).entriesOf).map (·.id))
  simp only [List.flatMap_cons, List.flatMap_nil, List.append_nil, List.map_append,
    List.nodup_append] at hpair
  exact hpair.2.2 _ (List.mem_map_of_mem hfirst) _ (List.mem_map_of_mem hsecond) hid

end MemoryBackend
end CertCatalog
