import CertCatalog.CertificateId
import CertCatalog.Distinct
import CertCatalog.Fleet.Basic
import CertCatalog.Table

/-!
# The catalog

One view of all vaults.  Certificates carry the id of their vault in front; the catalog adds it to
what it hands out and takes it off what it is asked for.
-/

namespace CertCatalog

/-- The vaults in their order, and the clients by vault id.  A vault may have no client. -/
structure Catalog where
  vaultIds : List String
  clients : Table (Option Nat)
  deriving DecidableEq, Repr

structure VaultListing where
  vaultId : String
  certificates : List Certificate
  error : Option CatalogError
  /-- How long it took, in milliseconds. -/
  elapsed : Nat
  deriving DecidableEq, Repr

def VaultListing.isOk (l : VaultListing) : Bool :=
  l.error.isNone

namespace Catalog

/-! ## Enumeration -/

def namedIds (wanted : List String) (clients : Table (Option Nat)) : List String :=
  firstOccurrences ((wanted.map Text.trim).filter fun id =>
    CertificateId.isAddressable id && clients.contains id)

def addressableIds (clients : Table (Option Nat)) : List String :=
  (clients.keys.filter CertificateId.isAddressable).mergeSort fun a b => !(b < a)

/-- A catalog of the wanted vaults, or of all vaults if none of the wanted ones is there. -/
def ofClients (wanted : List String) (clients : Table (Option Nat)) : Catalog :=
  let named := namedIds wanted clients
  { vaultIds := if named.isEmpty then addressableIds clients else named, clients := clients }

/-! ## Clients -/

def client? (c : Catalog) (vaultId : String) : Option Nat :=
  (c.clients.get? vaultId).join

def requireClient (c : Catalog) (vaultId : String) : Outcome Nat :=
  match c.client? vaultId with
  | some client => .ok client
  | none => .error (.missingClient vaultId)

/-- Each client once, whatever the number of vaults that it serves. -/
def distinctClients (c : Catalog) : List Nat :=
  firstOccurrences (c.clients.entries.filterMap (·.2))

def resolve (c : Catalog) (id : String) : Outcome (String × String × Nat) := do
  let (vaultId, localId) ← CertificateId.parse c.vaultIds id
  let client ← c.requireClient vaultId
  pure (vaultId, localId, client)

def debugText (c : Catalog) : String :=
  Text.describe "MultiVaultClient"
    [("vault_ids", Text.quotedList c.vaultIds),
     ("missing", Text.quotedList (c.vaultIds.filter fun id => (c.client? id).isNone))]

/-! ## Listing -/

def prefixed (vaultId : String) (certificate : Certificate) : Certificate :=
  { certificate with id := CertificateId.compose vaultId certificate.id }

def listVault (c : Catalog) (vaultId : String) : Action Fleet (List Certificate) := do
  let client ← .answer (c.requireClient vaultId)
  let certificates ← Fleet.list client
  pure (certificates.map (prefixed vaultId))

def list (c : Catalog) : Action Fleet (List Certificate) :=
  if c.vaultIds.isEmpty then .answer (.error .notConfigured)
  else fun fleet =>
    let (listings, after) := Action.attemptAll c.listVault c.vaultIds fleet
    (joinListings listings, after)

def failedListing (vaultId : String) (error : CatalogError) (elapsed : Nat) : VaultListing :=
  { vaultId := vaultId, certificates := [], error := some error, elapsed := elapsed }

def listingOf (deadline : Nat) (vaultId : String) (elapsed : Nat) :
    Option (Outcome (List Certificate)) → VaultListing
  | some (.ok certificates) =>
      { vaultId := vaultId
        certificates := certificates.map (prefixed vaultId)
        error := none
        elapsed := elapsed }
  | some (.error e) => failedListing vaultId e elapsed
  | none => failedListing vaultId (.timeout vaultId deadline) deadline

/-- Asks one vault; a vault without a client is reported without a call. -/
def probe (c : Catalog) (deadline : Nat) (vaultId : String) (fleet : Fleet) :
    VaultListing × Fleet :=
  match c.requireClient vaultId with
  | .error e => (failedListing vaultId e 0, fleet)
  | .ok client =>
      let (answer, after) := Fleet.listWithin deadline client fleet
      (listingOf deadline vaultId (fleet.timeTaken after client) answer, after)

def probeAll (c : Catalog) (deadline : Nat) : List String → Fleet → List VaultListing × Fleet
  | [], fleet => ([], fleet)
  | vaultId :: rest, fleet =>
      let (listing, next) := c.probe deadline vaultId fleet
      let (listings, last) := c.probeAll deadline rest next
      (listing :: listings, last)

def waitingTime (c : Catalog) (deadline : Nat) (fleet : Fleet) : Nat :=
  (c.vaultIds.filterMap c.client?).foldl
    (fun longest client => max longest (min (fleet.listDelay client) deadline)) 0

def listByVault (c : Catalog) (deadline : Nat) (fleet : Fleet) : List VaultListing × Fleet :=
  let (listings, after) := c.probeAll deadline c.vaultIds fleet
  (listings, after.advance (c.waitingTime deadline fleet))

/-! ## Single certificates -/

def details (c : Catalog) (id : String) : Action Fleet CertificateDetails := do
  let (vaultId, localId, client) ← .answer (c.resolve id)
  let found ← Fleet.details client localId
  pure { found with certificate := prefixed vaultId found.certificate }

def pem (c : Catalog) (id : String) : Action Fleet PemRecord := do
  let (_, localId, client) ← .answer (c.resolve id)
  Fleet.pem client localId

def revoke (c : Catalog) (id token : String) : Action Fleet Unit :=
  if Text.isAllBlank token then .answer (.error .missingWriteToken)
  else do
    let (_, localId, client) ← .answer (c.resolve id)
    Fleet.revoke client localId token

/-! ## All vaults -/

def checkFrom (c : Catalog) : List String → Action Fleet Unit
  | [] => pure ()
  | vaultId :: rest => do
      let client ← .answer (c.requireClient vaultId)
      Fleet.check client
      c.checkFrom rest

def check (c : Catalog) : Action Fleet Unit :=
  if c.vaultIds.isEmpty then .answer (.error .notConfigured) else c.checkFrom c.vaultIds

def invalidate (c : Catalog) (fleet : Fleet) : Fleet :=
  c.distinctClients.foldl Fleet.invalidate fleet

def shutdown (c : Catalog) (fleet : Fleet) : Fleet :=
  c.distinctClients.foldl Fleet.shutdown fleet

def cacheSize (c : Catalog) (fleet : Fleet) : Nat :=
  c.distinctClients.foldl (fun total client => total + fleet.cacheSize client) 0

def source (c : Catalog) : CertificateSource Fleet where
  list := c.list
  details := c.details
  pem := c.pem
  revoke := c.revoke
  check := c.check
  invalidate := c.invalidate
  shutdown := c.shutdown
  cacheSize := c.cacheSize

end Catalog
end CertCatalog
