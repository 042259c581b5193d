/-!
# Errors of the catalog

One type for every failure that an operation can report, with its text and the status that a web
interface answers with.
-/

namespace CertCatalog

inductive CatalogError where
  | notConfigured
  | connection (message : String)
  | authentication (message : String)
  | uninitialized
  | sealed
  | invalidCertificateId (id : String)
  | unknownMount (mount : String)
  /-- An id without a mount, for a client that serves several. -/
  | unresolvableId (id : String)
  | notFound (mount serial : String)
  | decode (mount serial reason : String)
  | missingWriteToken
  /-- A vault whose client could not be built. -/
  | missingClient (vaultId : String)
  | timeout (vaultId : String) (afterMillis : Nat)
  | config (message : String)
  | backend (message : String)
  deriving DecidableEq, Repr

namespace CatalogError

def message : CatalogError → String
  | notConfigured => "vault is not configured"
  | connection message => "vault connection failed: " ++ message
  | authentication message => "vault authentication failed: " ++ message
  | uninitialized => "vault is not initialized"
  | sealed => "vault is sealed"
  | invalidCertificateId id => "invalid certificate id: '" ++ id ++ "'"
  | unknownMount mount => "mount " ++ mount ++ " is not configured"
  | unresolvableId id =>
      "certificate id '" ++ id ++ "' is ambiguous: specify the mount as 'mount:serial'"
  | notFound mount serial => "certificate " ++ serial ++ " not found in mount " ++ mount
  | decode mount serial reason =>
      "failed to decode certificate " ++ serial ++ " in mount " ++ mount ++ ": " ++ reason
  | missingWriteToken => "a write token is required to revoke certificates"
  | missingClient vaultId => "missing vault client for " ++ vaultId
  | timeout vaultId afterMillis =>
      "listing certificates from " ++ vaultId ++ " timed out after " ++ toString afterMillis ++ "ms"
  | config message => "Configuration error: " ++ message
  | backend message => "vault backend error: " ++ message

def unexpectedContent : CatalogError :=
  .config "invalid settings content: unexpected value"

def status : CatalogError → Nat
  | notConfigured | uninitialized | sealed => 503
  | connection _ | authentication _ | backend _ => 502
  | invalidCertificateId _ | unresolvableId _ => 400
  | unknownMount _ | notFound .. | missingClient _ => 404
  | decode .. => 422
  | missingWriteToken => 401
  | timeout .. => 504
  | config _ => 500

/-- Whether the caller supplied something unusable, so that trying again cannot help. -/
def isClientError : CatalogError → Bool
  | invalidCertificateId _ | unknownMount _ | unresolvableId _ | notFound .. | missingWriteToken =>
      true
  | _ => false

def isNotConfigured : CatalogError → Bool
  | notConfigured => true
  | _ => false

end CatalogError

abbrev Outcome (α : Type) := Except CatalogError α

instance {α : Type} [DecidableEq α] : DecidableEq (Outcome α)
  | .ok a, .ok b =>
      if h : a = b then isTrue (h ▸ rfl) else isFalse fun heq => h (Except.ok.inj heq)
  | .error a, .error b =>
      if h : a = b then isTrue (h ▸ rfl) else isFalse fun heq => h (Except.error.inj heq)
  | .ok _, .error _ => isFalse nofun
  | .error _, .ok _ => isFalse nofun

end CertCatalog
