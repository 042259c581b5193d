import CertCatalog.Catalog
import CertCatalog.Proofs.Action
import CertCatalog.Proofs.Cache
import CertCatalog.Proofs.CertificateId

/-!
# Enumerated vaults

Which vaults a catalog enumerates, and where the ids lead that it mints for them.
-/

namespace CertCatalog.Catalog

open CertCatalog.CertificateId

theorem isAddressable_of_mem_vaultIds {wanted : List String} {clients : Table (Option Nat)}
    {vaultId : String} (hmem : vaultId ∈ (ofClients wanted clients).vaultIds) :
    isAddressable vaultId = true := by
  unfold ofClients at hmem
  dsimp only at hmem
  split at hmem
  · simp only [addressableIds, List.mem_mergeSort, List.mem_filter] at hmem
    exact hmem.2
  · simp only [namedIds, mem_firstOccurrences, List.mem_filter, Bool.and_eq_true] at hmem
    exact hmem.2.1

theorem nodup_vaultIds (wanted : List String) (clients : Table (Option Nat)) :
    (ofClients wanted clients).vaultIds.Nodup := by
  unfold ofClients
  dsimp only
  split
  · rw [addressableIds, (List.mergeSort_perm _ _).nodup_iff]
    exact clients.keys_nodup.sublist List.filter_sublist
  · exact nodup_firstOccurrences _

/-! ## Vaults that are all wanted -/

theorem mem_namedIds {wanted : List String} {clients : Table (Option Nat)} {vaultId : String} :
    vaultId ∈ namedIds wanted clients ↔
      (∃ id ∈ wanted, Text.trim id = vaultId) ∧ isAddressable vaultId = true ∧
        vaultId ∈ clients.keys := by
  simp only [namedIds, mem_firstOccurrences, List.mem_filter, List.mem_map, Bool.and_eq_true,
    Table.contains, List.contains_iff_mem]

theorem mem_addressableIds {clients : Table (Option Nat)} {vaultId : String} :
    vaultId ∈ addressableIds clients ↔ vaultId ∈ clients.keys ∧ isAddressable vaultId = true := by
  rw [addressableIds, List.mem_mergeSort, List.mem_filter]

theorem mem_vaultIds_iff {wanted : List String} {clients : Table (Option Nat)}
    (hkeys : ∀ id, id ∈ clients.keys ↔ id ∈ wanted) {vaultId : String} :
    vaultId ∈ (ofClients wanted clients).vaultIds ↔
      vaultId ∈ wanted ∧ isAddressable vaultId = true := by
  unfold ofClients
  dsimp only
  split
  · rw [mem_addressableIds, hkeys]
  · rw [mem_namedIds, hkeys]
    constructor
    · rintro ⟨-, haddressable, hmem⟩
      exact ⟨hmem, haddressable⟩
    · rintro ⟨hmem, haddressable⟩
      exact ⟨⟨vaultId, hmem, (isAddressable_iff.mp haddressable).2.1⟩, haddressable, hmem⟩

theorem firstOccurrences_of_nodup {list : List String} (hnodup : list.Nodup) :
    firstOccurrences list = list := by
  induction list with
  | nil => rfl
  | cons item rest ih =>
      obtain ⟨hitem, hrest⟩ := List.nodup_cons.mp hnodup
      rw [firstOccurrences, ih hrest, List.filter_eq_self.mpr]
      intro other hother
      exact bne_iff_ne.mpr fun heq => hitem (heq ▸ hother)

theorem namedIds_eq_self {wanted : List String} {clients : Table (Option Nat)}
    (haddressable : ∀ id ∈ wanted, isAddressable id = true)
    (hkeys : ∀ id ∈ wanted, id ∈ clients.keys) (hnodup : wanted.Nodup) :
    namedIds wanted clients = wanted := by
  have htrimmed : wanted.map Text.trim = wanted := by
    rw [List.map_congr_left fun id hid => (isAddressable_iff.mp (haddressable id hid)).2.1]
    exact List.map_id wanted
  rw [namedIds, htrimmed, List.filter_eq_self.mpr, firstOccurrences_of_nodup hnodup]
  intro id hid
  rw [haddressable id hid, Bool.true_and, Table.contains, List.contains_iff_mem]
  exact hkeys id hid

theorem vaultIds_eq_wanted_iff {wanted : List String} {clients : Table (Option Nat)}
    (hkeys : ∀ id, id ∈ clients.keys ↔ id ∈ wanted) (hnodup : wanted.Nodup) :
    (ofClients wanted clients).vaultIds = wanted ↔ ∀ id ∈ wanted, isAddressable id = true := by
  constructor
  · intro hall id hid
    exact ((mem_vaultIds_iff hkeys).mp (hall.symm ▸ hid)).2
  · intro haddressable
    have hnamed : namedIds wanted clients = wanted :=
      namedIds_eq_self haddressable (fun id hid => (hkeys id).mpr hid) hnodup
    unfold ofClients
    dsimp only
    rw [hnamed]
    split
    · next hempty =>
        rw [List.isEmpty_iff.mp hempty] at hkeys ⊢
        rw [List.eq_nil_iff_forall_not_mem]
        intro id hid
        exact List.not_mem_nil ((hkeys id).mp (mem_addressableIds.mp hid).1)
    · rfl

/-! ## Clients -/

theorem requireClient_of_client? {c : Catalog} {vaultId : String} {name : Nat}
    (hclient : c.client? vaultId = some name) : c.requireClient vaultId = .ok name := by
  simp only [requireClient, hclient]

theorem requireClient_eq_error {c : Catalog} {vaultId : String}
    (hnone : c.client? vaultId = none) :
    c.requireClient vaultId = .error (.missingClient vaultId) := by
  simp only [requireClient, hnone]

theorem client?_of_requireClient {c : Catalog} {vaultId : String} {name : Nat}
    (hclient : c.requireClient vaultId = .ok name) : c.client? vaultId = some name := by
  unfold requireClient at hclient
  split at hclient
  · next hsome =>
      cases hclient
      exact hsome
  · contradiction

theorem client?_eq_some_iff {c : Catalog} {vaultId : String} {name : Nat} :
    c.client? vaultId = some name ↔ (vaultId, some name) ∈ c.clients.entries := by
  rw [client?, Option.join_eq_some_iff, Table.get?_eq_some_iff]

theorem resolve_of_parse {c : Catalog} {id vaultId localId : String} {name : Nat}
    (hparse : parse c.vaultIds id = .ok (vaultId, localId))
    (hclient : c.client? vaultId = some name) : c.resolve id = .ok (vaultId, localId, name) := by
  simp only [resolve, hparse, requireClient_of_client? hclient, bind, Except.bind]
  rfl

theorem resolve_of_parse_error {c : Catalog} {id : String} {e : CatalogError}
    (hparse : parse c.vaultIds id = .error e) : c.resolve id = .error e := by
  simp only [resolve, hparse, bind, Except.bind]

theorem resolve_of_client?_eq_none {c : Catalog} {id vaultId localId : String}
    (hparse : parse c.vaultIds id = .ok (vaultId, localId)) (hnone : c.client? vaultId = none) :
    c.resolve id = .error (.missingClient vaultId) := by
  simp only [resolve, hparse, requireClient, hnone, bind, Except.bind]

/-! ## Looking at a certificate -/

theorem details_of_resolve {c : Catalog} {id vaultId localId : String} {name : Nat}
    (hresolve : c.resolve id = .ok (vaultId, localId, name)) (fleet : Fleet) :
    c.details id fleet =
      ((Fleet.details name localId fleet).1.map fun found =>
          { found with certificate := prefixed vaultId found.certificate },
        (Fleet.details name localId fleet).2) := by
  unfold details
  rw [hresolve]
  exact (Action.bind_of_ok rfl).trans (Action.bind_pure_apply _ _ fleet)

theorem details_of_resolve_error {c : Catalog} {id : String} {e : CatalogError}
    (hresolve : c.resolve id = .error e) (fleet : Fleet) :
    c.details id fleet = (.error e, fleet) := by
  unfold details
  rw [hresolve]
  exact Action.bind_of_error rfl

theorem pem_of_resolve {c : Catalog} {id vaultId localId : String} {name : Nat}
    (hresolve : c.resolve id = .ok (vaultId, localId, name)) (fleet : Fleet) :
    c.pem id fleet = Fleet.pem name localId fleet := by
  unfold pem
  rw [hresolve]
  exact Action.bind_of_ok rfl

theorem pem_of_resolve_error {c : Catalog} {id : String} {e : CatalogError}
    (hresolve : c.resolve id = .error e) (fleet : Fleet) : c.pem id fleet = (.error e, fleet) := by
  unfold pem
  rw [hresolve]
  exact Action.bind_of_error rfl

/-! ## Two vaults with one client -/

def sampleCatalog : Catalog :=
  ofClients ["east", "west"] (Table.ofList [("east", some 0), ("west", some 0)])

theorem client?_sample {vaultId : String} {name : Nat}
    (hclient : sampleCatalog.client? vaultId = some name) : name = 0 := by
  have hserved : ∀ entry ∈ sampleCatalog.clients.entries, entry.2 = some 0 := by decide
  exact Option.some.inj (hserved _ (client?_eq_some_iff.mp hclient))

end CertCatalog.Catalog
