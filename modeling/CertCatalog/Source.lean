import CertCatalog.Action
import CertCatalog.Certificate

/-!
# Sources of certificates

What every client of the catalog can do, and the steps that its user takes.
-/

namespace CertCatalog

structure CertificateSource (σ : Type) where
  list : Action σ (List Certificate)
  details : String → Action σ CertificateDetails
  pem : String → Action σ PemRecord
  revoke : String → String → Action σ Unit
  check : Action σ Unit
  invalidate : σ → σ
  shutdown : σ → σ
  cacheSize : σ → Nat

inductive ClientStep where
  | list
  | details (id : String)
  | pem (id : String)
  | revoke (id token : String)
  | check
  | invalidate
  | shutdown
  | cacheSize
  deriving DecidableEq, Repr

inductive ClientAnswer where
  | certificates (outcome : Outcome (List Certificate))
  | details (outcome : Outcome CertificateDetails)
  | pem (outcome : Outcome PemRecord)
  | done (outcome : Outcome Unit)
  | size (count : Nat)
  deriving DecidableEq

namespace CertificateSource

variable {σ : Type}

def step (source : CertificateSource σ) (s : σ) : ClientStep → ClientAnswer × σ
  | .list => let (outcome, next) := source.list s; (.certificates outcome, next)
  | .details id => let (outcome, next) := source.details id s; (.details outcome, next)
  | .pem id => let (outcome, next) := source.pem id s; (.pem outcome, next)
  | .revoke id token => let (outcome, next) := source.revoke id token s; (.done outcome, next)
  | .check => let (outcome, next) := source.check s; (.done outcome, next)
  | .invalidate => (.done (.ok ()), source.invalidate s)
  | .shutdown => (.done (.ok ()), source.shutdown s)
  | .cacheSize => (.size (source.cacheSize s), s)

/-- The client of a catalog without vaults: it lists nothing, and nothing else can be done. -/
def disabled : CertificateSource σ where
  list := .answer (.ok [])
  details _ := .answer (.error .notConfigured)
  pem _ := .answer (.error .notConfigured)
  revoke _ _ := .answer (.error .notConfigured)
  check := .answer (.error .notConfigured)
  invalidate s := s
  shutdown s := s
  cacheSize _ := 0

end CertificateSource

/-! ## Joining listings -/

def lastError? (listings : List (Outcome (List Certificate))) : Option CatalogError :=
  listings.reverse.findSome? fun
    | .error e => some e
    | .ok _ => none

def gathered (listings : List (Outcome (List Certificate))) : List Certificate :=
  listings.flatMap fun
    | .ok certificates => certificates
    | .error _ => []

/--
One sorted listing from several.  Failures are passed over as long as one listing succeeded;
otherwise the last failure is reported.
-/
def joinListings (listings : List (Outcome (List Certificate))) : Outcome (List Certificate) :=
  match listings.any (·.isOk), lastError? listings with
  | false, some e => .error e
  | _, _ => .ok (Certificate.sort (gathered listings))

end CertCatalog
