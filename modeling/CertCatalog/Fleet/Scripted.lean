import CertCatalog.Source
import CertCatalog.Text.Blank
import CertCatalog.Text.Split

/-!
# Scripted clients

A client whose answers are fixed beforehand.  It has no state of its own.
-/

namespace CertCatalog

structure ScriptedClient where
  certificates : List Certificate
  /-- The details that are known; the last of an id count. -/
  details : List CertificateDetails
  listError : Option CatalogError
  connectionError : Option CatalogError
  /-- How long a listing takes, in milliseconds. -/
  delay : Nat
  cacheSize : Nat
  deriving DecidableEq, Repr

namespace ScriptedClient

/-- The mount and the serial of an id, an empty mount when there is no colon. -/
def splitId (id : String) : String × String :=
  (Text.cut? id ':').getD ("", id)

def lookUp (script : ScriptedClient) (id : String) : Outcome CertificateDetails :=
  match script.details.reverse.find? (·.certificate.id == id) with
  | some details => .ok details
  | none =>
      match script.certificates.find? (·.id == id) with
      | some certificate => .ok (.ofSummary certificate (splitId id).2)
      | none => .error (.notFound (splitId id).1 (splitId id).2)

def failWith (error : Option CatalogError) : Outcome Unit :=
  match error with
  | some e => .error e
  | none => .ok ()

def list (script : ScriptedClient) : Outcome (List Certificate) := do
  failWith script.listError
  pure script.certificates

def pem (script : ScriptedClient) (id : String) : Outcome PemRecord := do
  let details ← script.lookUp id
  pure { serialNumber := details.serialNumber, pem := details.pem }

def revoke (token : String) : Outcome Unit :=
  if Text.isAllBlank token then .error .missingWriteToken else .ok ()

def source {σ : Type} (script : ScriptedClient) : CertificateSource σ where
  list := .answer script.list
  details id := .answer (script.lookUp id)
  pem id := .answer (script.pem id)
  revoke _ token := .answer (revoke token)
  check := .answer (failWith script.connectionError)
  invalidate s := s
  shutdown s := s
  cacheSize _ := script.cacheSize

end ScriptedClient
end CertCatalog
