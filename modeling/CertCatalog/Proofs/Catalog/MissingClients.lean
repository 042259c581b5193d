import CertCatalog.Proofs.Catalog.Checks
import CertCatalog.Proofs.Catalog.Revocation

/-!
# Vaults without a client

A vault without a client stays in the catalog and is reported wherever it is asked for.
-/

namespace CertCatalog.Catalog

open CertCatalog.CertificateId CertCatalog.Text

/--
A vault of the catalog whose ids can be asked for, and whatever is asked of it fails since it has no
client.  No other client is called then, and a check stops as soon as it gets there.
-/
structure ReportsMissing (c : Catalog) (vaultId : String) : Prop where
  enumerated : vaultId ∈ c.vaultIds
  addressed : ∀ localId, isAllBlank localId = false →
    parse c.vaultIds (compose vaultId localId) = .ok (vaultId, trim localId)
  details : ∀ id localId fleet, parse c.vaultIds id = .ok (vaultId, localId) →
    c.details id fleet = (.error (.missingClient vaultId), fleet)
  pem : ∀ id localId fleet, parse c.vaultIds id = .ok (vaultId, localId) →
    c.pem id fleet = (.error (.missingClient vaultId), fleet)
  revoke : ∀ id localId token fleet, parse c.vaultIds id = .ok (vaultId, localId) →
    isAllBlank token = false → c.revoke id token fleet = (.error (.missingClient vaultId), fleet)
  check : ∀ passed rest fleet next, c.vaultIds = passed ++ vaultId :: rest →
    c.checkFrom passed fleet = (.ok (), next) →
      c.check fleet = (.error (.missingClient vaultId), next)

theorem reportsMissing {c : Catalog} {vaultId : String} (hmem : vaultId ∈ c.vaultIds)
    (haddressable : isAddressable vaultId = true) (hnone : c.client? vaultId = none) :
    c.ReportsMissing vaultId where
  enumerated := hmem
  addressed _ hlocal := parse_compose haddressable hlocal _
  details _ _ fleet hparse :=
    details_of_resolve_error (resolve_of_client?_eq_none hparse hnone) fleet
  pem _ _ fleet hparse := pem_of_resolve_error (resolve_of_client?_eq_none hparse hnone) fleet
  revoke _ _ _ fleet hparse htoken :=
    revoke_of_resolve_error htoken (resolve_of_client?_eq_none hparse hnone) fleet
  check passed rest fleet next hids hok := by
    have hstops : c.StopsAt passed vaultId fleet (.missingClient vaultId) next :=
      ⟨next, checkFrom_eq_ok_iff.mp hok, ownCheck_of_missing hnone next⟩
    rw [check_of_ne_nil (List.ne_nil_of_mem hmem), hids]
    exact checkFrom_of_stopsAt hstops rest

end CertCatalog.Catalog
