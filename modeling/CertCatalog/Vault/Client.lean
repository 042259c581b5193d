import CertCatalog.Cache
import CertCatalog.CertificateId
import CertCatalog.Source
import CertCatalog.Text.Duration
import CertCatalog.Text.Quoted
import CertCatalog.Vault.Server

/-!
# The client of one vault

A client lists the certificates of all its mounts and keeps the listing for a while.  Everything
else is asked of the server each time.  Times are milliseconds.
-/

namespace CertCatalog

structure VaultClient where
  vaultId : String
  mounts : List String
  cache : TtlCache (List Certificate)
  /-- The time between two sweeps of the cache; without it the cache is never swept. -/
  sweepEvery : Option Nat
  isShutDown : Bool
  deriving DecidableEq

namespace VaultClient

variable {σ : Type}

/-- A client with an empty cache.  Sweeps are at least one millisecond apart. -/
def start (vaultId : String) (mounts : List String) (ttl : Nat) (sweepEvery : Option Nat) :
    VaultClient :=
  { vaultId := vaultId
    mounts := mounts
    cache := TtlCache.empty ttl
    sweepEvery := sweepEvery.map (max 1)
    isShutDown := false }

/-! ## Reading records -/

def readPem (server : Server σ) (mount serial : String) : Action σ String := do
  match ← server.readRecord mount serial with
  | some pem => pure pem
  | none => .answer (.error (.notFound mount serial))

def readAttributes (server : Server σ) (mount serial : String) :
    Action σ (String × Attributes) := do
  let pem ← readPem server mount serial
  match Attributes.ofPem pem with
  | .ok attributes => pure (pem, attributes)
  | .error e => .answer (.error (.decode mount serial e.message))

/-! ## Listing -/

def certificateOf (mount : String) (revoked : List String) (serial : String)
    (attributes : Attributes) : Certificate :=
  let certificate := Certificate.ofAttributes (CertificateId.ofMount mount serial) attributes
  if revoked.contains serial then certificate.markRevoked else certificate

/-- The certificates whose records can be read; the others are passed over. -/
def readable (mount : String) (revoked : List String) :
    List String → List (Outcome (String × Attributes)) → List Certificate
  | serial :: serials, .ok (_, attributes) :: outcomes =>
      certificateOf mount revoked serial attributes :: readable mount revoked serials outcomes
  | _ :: serials, .error _ :: outcomes => readable mount revoked serials outcomes
  | _, _ => []

def listMount (server : Server σ) (mount : String) : Action σ (List Certificate) := do
  let serials ← server.listSerials mount
  let revoked ← server.listRevoked mount
  fun s =>
    let (outcomes, next) := Action.attemptAll (readAttributes server mount) serials s
    (.ok (readable mount revoked serials outcomes), next)

def freshListing (server : Server σ) (mounts : List String) : Action σ (List Certificate) :=
  fun s =>
    let (listings, next) := Action.attemptAll (listMount server) mounts s
    (joinListings listings, next)

def listingKey : String := "list"

def cached? (v : VaultClient) (now : Nat) : Option (List Certificate) :=
  v.cache.get? listingKey now

def keep (v : VaultClient) (certificates : List Certificate) (now : Nat) : VaultClient :=
  { v with cache := v.cache.insert listingKey certificates now }

/--
The cached listing as long as it lasts, else a new one, which is kept if it succeeds.  It is taken to
expire before the end of the clock; `VaultSession` tells what happens otherwise.
-/
def list (server : Server σ) (now : Nat) : Action (VaultClient × σ) (List Certificate) :=
  fun (v, s) =>
    match v.cached? now with
    | some certificates => (.ok certificates, v, s)
    | none =>
        match freshListing server v.mounts s with
        | (.ok certificates, next) => (.ok certificates, v.keep certificates now, next)
        | (.error e, next) => (.error e, v, next)

/-! ## Single certificates -/

def resolve (v : VaultClient) (id : String) : Outcome (String × String) :=
  CertificateId.resolve v.mounts id

def details (v : VaultClient) (server : Server σ) (id : String) :
    Action σ CertificateDetails := do
  let (mount, serial) ← .answer (v.resolve id)
  let (pem, attributes) ← readAttributes server mount serial
  let revoked ← server.listRevoked mount
  let found := CertificateDetails.ofAttributes (CertificateId.ofMount mount serial) serial
    attributes pem
  pure { found with certificate := certificateOf mount revoked serial attributes }

def pem (v : VaultClient) (server : Server σ) (id : String) : Action σ PemRecord := do
  let (mount, serial) ← .answer (v.resolve id)
  let text ← readPem server mount serial
  pure { serialNumber := serial, pem := text }

def revoke (v : VaultClient) (server : Server σ) (id token : String) : Action σ Unit :=
  if Text.isAllBlank token then .answer (.error .missingWriteToken)
  else do
    let (mount, serial) ← .answer (v.resolve id)
    server.revoke mount serial (Text.trim token)

/-! ## The server as a whole -/

def check (server : Server σ) : Action σ Unit := do
  let health ← server.health
  if !health.initialized then .answer (.error .uninitialized)
  else if health.sealed then .answer (.error .sealed)
  else server.checkToken

def onMount {α : Type} (v : VaultClient) (mount : String) (action : Action σ α) : Action σ α :=
  if v.mounts.contains mount then action else .answer (.error (.unknownMount mount))

def readCrl (v : VaultClient) (server : Server σ) (mount : String) : Action σ String :=
  v.onMount mount (server.readCrl mount)

def rotateCrl (v : VaultClient) (server : Server σ) (mount : String) : Action σ Unit :=
  v.onMount mount (server.rotateCrl mount)

/-! ## The cache -/

def invalidate (v : VaultClient) : VaultClient :=
  { v with cache := v.cache.clear }

def shutdown (v : VaultClient) : VaultClient :=
  { v with isShutDown := true }

def cacheSize (v : VaultClient) : Nat :=
  v.cache.size

/-- The last sweep after the time `before` and not after the time `after`. -/
def lastSweep? (v : VaultClient) (before after : Nat) : Option Nat :=
  match v.sweepEvery with
  | some interval =>
      let time := after / interval * interval
      if v.isShutDown || time ≤ before then none else some time
  | none => none

def sweep (v : VaultClient) (now : Nat) : VaultClient :=
  { v with cache := v.cache.cleanup now }

/-! ## Description -/

/-- What a client is made of; its server is not described. -/
def debugText (v : VaultClient) : String :=
  Text.describe "VaultCertificateClient"
    [("vault_id", Text.quoted v.vaultId), ("mounts", Text.quotedList v.mounts),
     ("cache_ttl", Text.durationText v.cache.ttl), ("connection", Text.quoted "[PkiConnection]")]

/-! ## As a source -/

def onServer {α : Type} (action : VaultClient → Action σ α) : Action (VaultClient × σ) α :=
  fun (v, s) => ((action v s).1, v, (action v s).2)

def source (server : Server σ) (now : Nat) : CertificateSource (VaultClient × σ) where
  list := list server now
  details id := onServer fun v => v.details server id
  pem id := onServer fun v => v.pem server id
  revoke id token := onServer fun v => v.revoke server id token
  check := onServer fun _ => check server
  invalidate := fun (v, s) => (v.invalidate, s)
  shutdown := fun (v, s) => (v.shutdown, s)
  cacheSize := fun (v, _) => v.cacheSize

end VaultClient
end CertCatalog
