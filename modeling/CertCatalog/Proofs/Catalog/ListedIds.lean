import CertCatalog.Proofs.Catalog.Listing

/-!
# Listed ids

A listing and a look at one certificate reach the records of a vault on two ways.  The listing walks
over all vaults, may be served from caches and is sorted; the look at one certificate takes its id
apart and asks one server.  The main statement is that both agree: each id of a listing opens the
certificate that the listing shows.
-/

namespace CertCatalog

open CertCatalog.CertificateId CertCatalog.VaultClient CertCatalog.MemoryBackend
open CertCatalog.Fleet (sampleClient sampleFleet)

/--
Mounts and serials whose ids lead back to them: no mount holds the separator or begins with a blank,
and every stored serial can stand in a path and ends without a blank.
-/
structure VaultClient.HasPlainPlaces (v : VaultClient) (b : MemoryBackend) : Prop where
  mounts_plain : ∀ mount ∈ v.mounts,
    mountSeparator ∉ mount.toList ∧ Text.hasLeadingBlank mount = false
  serials_plain : ∀ record ∈ b.records,
    isSerial record.serial = true ∧ Text.hasTrailingBlank record.serial = false

/-! ## One certificate -/

theorem Catalog.id_prefixed_certificateOf (vaultId mount : String) (revoked : List String)
    (serial : String) (attributes : Attributes) :
    (prefixed vaultId (certificateOf mount revoked serial attributes)).id =
      compose vaultId (ofMount mount serial) := by
  rw [certificateOf_eq]
  rfl

theorem Catalog.prefixed_certificateOf_eq (vaultId mount : String) (revoked : List String)
    (serial : String) (attributes : Attributes) {shown : Certificate}
    (hshown : shown = prefixed vaultId (certificateOf mount revoked serial attributes)) :
    shown = { Certificate.ofAttributes shown.id attributes with revoked := shown.revoked } := by
  rw [certificateOf_eq] at hshown
  subst hshown
  rfl

namespace Catalog

/-! ## The way of a listing -/

/-- What the listing of one vault gives, in terms of what its server held at first. -/
def ListsFrom (c : Catalog) (fleet : Fleet) (vaultId : String)
    (outcome : Outcome (List Certificate)) : Prop :=
  ∀ certificates, outcome = .ok certificates →
    ∃ name v b listed, c.client? vaultId = some name ∧
      fleet.clients[name]? = some (Client.inMemory v b) ∧ b.listing v.mounts = .ok listed ∧
      certificates = listed.map (prefixed vaultId)

def IsCurrent (c : Catalog) (fleet : Fleet) : Prop :=
  ∀ vaultId ∈ c.vaultIds, ∀ name, c.client? vaultId = some name →
    ∃ v b, fleet.clients[name]? = some (Client.inMemory v b) ∧ v.IsCurrent b fleet.clock.wall

theorem listVault_step {c : Catalog} {fleet : Fleet} (hcurrent : c.IsCurrent fleet)
    {vaultId : String} (hmem : vaultId ∈ c.vaultIds) {s : Fleet} (hs : fleet.StaysCurrent s) :
    c.ListsFrom fleet vaultId (c.listVault vaultId s).1 ∧
      fleet.StaysCurrent (c.listVault vaultId s).2 := by
  cases hrequire : c.requireClient vaultId with
  | error e =>
      have hrun : c.listVault vaultId s = (.error e, s) := by
        rw [listVault, hrequire]
        exact Action.bind_of_error rfl
      rw [hrun]
      exact ⟨fun _ hok => by contradiction, hs⟩
  | ok name =>
      have hclient := client?_of_requireClient hrequire
      obtain ⟨v, b, hv, hstill⟩ := hcurrent vaultId hmem name hclient
      obtain ⟨last, hlist, hlast⟩ := hs.list hv hstill
      cases hlisting : b.listing v.mounts with
      | error e =>
          have hrun : c.listVault vaultId s = (.error e, last) := by
            rw [listVault, hrequire]
            exact (Action.bind_of_ok rfl).trans (Action.bind_of_error (hlisting ▸ hlist))
          rw [hrun]
          exact ⟨fun _ hok => by contradiction, hlast⟩
      | ok listed =>
          have hrun : c.listVault vaultId s = (.ok (listed.map (prefixed vaultId)), last) := by
            rw [listVault, hrequire]
            exact (Action.bind_of_ok rfl).trans (Action.bind_of_ok (hlisting ▸ hlist))
          rw [hrun]
          refine ⟨fun certificates hok => ?_, hlast⟩
          cases hok
          exact ⟨name, v, b, listed, hclient, hv, hlisting, rfl⟩

theorem joinListings_of_list {c : Catalog} {fleet after : Fleet} {certificates : List Certificate}
    (hlist : c.list fleet = (.ok certificates, after)) :
    joinListings (Action.attemptAll c.listVault c.vaultIds fleet).1 = .ok certificates ∧
      (Action.attemptAll c.listVault c.vaultIds fleet).2 = after := by
  rw [list_apply] at hlist
  split at hlist
  · cases hlist
  · exact Prod.mk.inj hlist

/-- The run lemma: after a listing all is current that was so, and each entry has an origin. -/
theorem exists_origin_of_list {c : Catalog} {fleet after : Fleet} (hcurrent : c.IsCurrent fleet)
    {certificates : List Certificate} (hlist : c.list fleet = (.ok certificates, after)) :
    fleet.StaysCurrent after ∧ ∀ certificate ∈ certificates, ∃ vaultId ∈ c.vaultIds,
      ∃ name v b listed raw, c.client? vaultId = some name ∧
        fleet.clients[name]? = some (Client.inMemory v b) ∧ b.listing v.mounts = .ok listed ∧
        raw ∈ listed ∧ certificate = prefixed vaultId raw := by
  obtain ⟨hjoined, rfl⟩ := joinListings_of_list hlist
  obtain ⟨houtcomes, hafter⟩ := Action.attemptAll_forall₂ fleet.StaysCurrent
    (c.ListsFrom fleet) c.listVault (fun _ hmem _ hs => listVault_step hcurrent hmem hs)
    (Fleet.StaysCurrent.refl fleet)
  refine ⟨hafter, fun certificate hc => ?_⟩
  obtain ⟨shown, hshown, hmem⟩ := (mem_of_joinListings hjoined).mp hc
  obtain ⟨vaultId, hvault, hfrom⟩ := Action.exists_item_of_mem houtcomes hshown
  obtain ⟨name, v, b, listed, hclient, hv, hlisting, rfl⟩ := hfrom shown rfl
  obtain ⟨raw, hraw, rfl⟩ := List.mem_map.mp hmem
  exact ⟨vaultId, hvault, name, v, b, listed, raw, hclient, hv, hlisting, hraw, rfl⟩

/-! ## The way of a single id -/

theorem open_minted {c : Catalog} {vaultId : String} (haddressable : isAddressable vaultId = true)
    {name : Nat} (hclient : c.client? vaultId = some name) {fleet : Fleet} {v : VaultClient}
    {b : MemoryBackend} (hv : fleet.clients[name]? = some (.inMemory v b)) {mount serial : String}
    (hresolve : v.resolve (ofMount mount serial) = .ok (mount, serial))
    (htrim : Text.trim (ofMount mount serial) = ofMount mount serial) {pem : String}
    {attributes : Attributes} (hread : b.readOutcome mount serial = .ok (pem, attributes)) :
    (c.details (compose vaultId (ofMount mount serial)) fleet).1 =
        .ok { CertificateDetails.ofAttributes (ofMount mount serial) serial attributes pem with
          certificate := prefixed vaultId
            (certificateOf mount (b.revokedOf mount) serial attributes) } ∧
      (c.pem (compose vaultId (ofMount mount serial)) fleet).1 =
        .ok { serialNumber := serial, pem := pem } := by
  have hparse : parse c.vaultIds (compose vaultId (ofMount mount serial)) =
      .ok (vaultId, ofMount mount serial) := by
    rw [parse_compose haddressable (isAllBlank_ofMount mount serial), htrim]
  have hresolved := resolve_of_parse hparse hclient
  have hdetails : b.detailsOutcome mount serial =
      .ok { CertificateDetails.ofAttributes (ofMount mount serial) serial attributes pem with
        certificate := certificateOf mount (b.revokedOf mount) serial attributes } := by
    simp only [detailsOutcome, hread]
    rfl
  have hrecord : b.recordOutcome mount serial = .ok { serialNumber := serial, pem := pem } := by
    simp only [recordOutcome, (readOutcome_eq_ok.mp hread).1]
    rfl
  constructor
  · obtain ⟨after, hrun, -⟩ := Fleet.details_inMemory hv (ofMount mount serial)
    rw [hresolve] at hrun
    rw [details_of_resolve hresolved, hrun]
    exact congrArg (Except.map _) hdetails
  · obtain ⟨after, hrun, -⟩ := Fleet.pem_inMemory hv (ofMount mount serial)
    rw [hresolve] at hrun
    rw [pem_of_resolve hresolved, hrun]
    exact hrecord

/-! ## What happens in between -/

theorem sameServers_details (c : Catalog) (id : String) (fleet : Fleet) :
    fleet.SameServers (c.details id fleet).2 := by
  cases hresolve : c.resolve id with
  | error e =>
      rw [details_of_resolve_error hresolve]
      exact .refl fleet
  | ok target =>
      obtain ⟨vaultId, localId, name⟩ := target
      rw [details_of_resolve hresolve]
      exact Fleet.sameServers_details fleet name localId

theorem sameServers_attemptAll_details (c : Catalog) (ids : List String) (fleet : Fleet) :
    fleet.SameServers (Action.attemptAll c.details ids fleet).2 := by
  have hstep : ∀ id ∈ ids, ∀ s, fleet.SameServers s →
      True ∧ fleet.SameServers (c.details id s).2 :=
    fun id _ s hs => ⟨trivial, hs.trans (sameServers_details c id s)⟩
  exact (Action.attemptAll_forall₂ fleet.SameServers (fun _ _ => True) c.details hstep
    (.refl fleet)).2

/-! ## Both ways meet -/

def ServesPlainPlaces (c : Catalog) (fleet : Fleet) : Prop :=
  ∀ vaultId ∈ c.vaultIds, ∀ name, c.client? vaultId = some name →
    ∃ v b, fleet.clients[name]? = some (Client.inMemory v b) ∧ v.HasPlainPlaces b ∧
      v.IsCurrent b fleet.clock.wall

/--
Each id of a listing opens the certificate that the listing shows, in all of its fields, and the PEM
material of the same record, as long as the servers hold what they held at the listing.  The id
names a vault, a mount and the serial of the details, and the material says what the certificate
says.
-/
theorem details_and_pem_of_listed {wanted : List String} {clients : Table (Option Nat)}
    {c : Catalog} (hc : c = ofClients wanted clients) {fleet after later : Fleet}
    (hvaults : c.ServesPlainPlaces fleet) {certificates : List Certificate}
    (hlist : c.list fleet = (.ok certificates, after)) (hlater : after.SameServers later) :
    ∀ certificate ∈ certificates, ∃ vaultId ∈ c.vaultIds, ∃ mount details record attributes,
      (c.details certificate.id later).1 = .ok details ∧
      (c.pem certificate.id later).1 = .ok record ∧
      details.certificate = certificate ∧
      record.pem = details.pem ∧ record.serialNumber = details.serialNumber ∧
      certificate.id = compose vaultId (ofMount mount details.serialNumber) ∧
      Attributes.ofPem details.pem = .ok attributes ∧
      certificate = { Certificate.ofAttributes certificate.id attributes with
        revoked := certificate.revoked } := by
  intro certificate hmem
  have hcurrent : c.IsCurrent fleet := by
    intro vaultId hvault name hclient
    obtain ⟨v, b, hv, -, hstill⟩ := hvaults vaultId hvault name hclient
    exact ⟨v, b, hv, hstill⟩
  obtain ⟨hstays, horigin⟩ := exists_origin_of_list hcurrent hlist
  obtain ⟨vaultId, hvault, name, v, b, listed, raw, hclient, hv, hlisting, hraw, hshown⟩ :=
    horigin certificate hmem
  obtain ⟨mount, hmount, serial, hserial, pem, attributes, hread, rfl⟩ :=
    exists_record_of_listing hlisting hraw
  obtain ⟨v', b', hv', hplaces, hstill⟩ := hvaults vaultId hvault name hclient
  obtain ⟨rfl, rfl⟩ : v = v' ∧ b = b' := by simpa [hv] using hv'
  -- The places of the record are plain, so its id is taken apart where it was put together.
  obtain ⟨hplain, hlead⟩ := hplaces.mounts_plain mount hmount
  obtain ⟨stored, hstored, -, rfl⟩ := exists_record_of_mem_serialsOf hserial
  obtain ⟨hpath, htrail⟩ := hplaces.serials_plain stored hstored
  have htrim : Text.trim (ofMount mount stored.serial) = ofMount mount stored.serial := by
    rw [trim_ofMount hlead, (Text.trimEnd_eq_self_iff _).mpr htrail]
  -- Neither the listing nor what came after it has changed what the server holds.
  obtain ⟨w, middle, hw, hmounts, hmiddle, -⟩ := hstays.clients name v b hv hstill
  obtain ⟨x, last, hx, hkept, hlast⟩ := hlater name w middle hw
  have hsame : SameContents b last := hmiddle.trans hlast
  have hresolve : x.resolve (ofMount mount stored.serial) = .ok (mount, stored.serial) := by
    rw [VaultClient.resolve, hkept, hmounts]
    exact resolve_ofMount_of_isSerial hmount hlead hplain hpath htrail
  have haddressable : isAddressable vaultId = true :=
    isAddressable_of_mem_vaultIds (hc ▸ hvault)
  obtain ⟨hdetails, hpem⟩ := open_minted haddressable hclient hx hresolve htrim
    ((hsame.readOutcome_eq mount stored.serial).symm.trans hread)
  rw [← hsame.revokedOf_eq, ← hshown] at hdetails
  have hid : certificate.id = compose vaultId (ofMount mount stored.serial) := by
    rw [hshown, id_prefixed_certificateOf]
  refine ⟨vaultId, hvault, mount, _, _, attributes, hid ▸ hdetails, hid ▸ hpem, ?_⟩
  exact ⟨rfl, rfl, rfl, hid, (readOutcome_eq_ok.mp hread).2,
    prefixed_certificateOf_eq _ _ _ _ _ hshown⟩

/-- The second vault is served from the cache that the first one has filled. -/
def sampleListing : List Certificate :=
  [sampleCertificate "east|pki:0a:1b", sampleCertificate "west|pki:0a:1b"]

theorem servesPlainPlaces_sample : sampleCatalog.ServesPlainPlaces sampleFleet := by
  intro vaultId _ name hclient
  obtain rfl := client?_sample hclient
  refine ⟨sampleClient, sampleServer [("pki", "0a:1b")], rfl, ⟨by decide, by decide⟩, ?_⟩
  intro certificates hcached
  cases hcached

theorem list_sample : (sampleCatalog.list sampleFleet).1 = .ok sampleListing := by
  have hids : sampleCatalog.vaultIds = ["east", "west"] := by decide
  have hlistings :
      (Action.attemptAll sampleCatalog.listVault ["east", "west"] sampleFleet).1 =
        [.ok [sampleCertificate "east|pki:0a:1b"], .ok [sampleCertificate "west|pki:0a:1b"]] := by
    decide +kernel
  have hsorted : Certificate.sort sampleListing = sampleListing :=
    List.mergeSort_of_pairwise (by decide)
  rw [list_apply, hids, hlistings]
  exact congrArg Except.ok hsorted

theorem details_and_pem_of_sample : ∃ after later details record,
    sampleCatalog.list sampleFleet = (.ok sampleListing, after) ∧
      (Action.attemptAll sampleCatalog.details (sampleListing.map (·.id)) after).2 = later ∧
      (sampleCatalog.details "west|pki:0a:1b" later).1 = .ok details ∧
      (sampleCatalog.pem "west|pki:0a:1b" later).1 = .ok record ∧
      details.certificate = sampleCertificate "west|pki:0a:1b" ∧ record.pem = details.pem := by
  have hlist : sampleCatalog.list sampleFleet =
      (.ok sampleListing, (sampleCatalog.list sampleFleet).2) := Prod.ext list_sample rfl
  obtain ⟨_, _, _, details, record, _, hdetails, hpem, hshown, htext, -⟩ :=
    details_and_pem_of_listed rfl servesPlainPlaces_sample hlist
      (sameServers_attemptAll_details sampleCatalog (sampleListing.map (·.id)) _)
      (sampleCertificate "west|pki:0a:1b") (by simp [sampleListing])
  exact ⟨_, _, details, record, hlist, rfl, hdetails, hpem, hshown, htext⟩

end Catalog
end CertCatalog
