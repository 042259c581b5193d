import CertCatalog.Bytes.Base64
import CertCatalog.CatalogError
import CertCatalog.Config.VaultEntry
import CertCatalog.Files
import CertCatalog.Text.Blank

/-!
# Trust options

Whether the certificate of a server is checked, and the certificates that are trusted in addition.
-/

namespace CertCatalog

open CertCatalog.Bytes

structure TrustOptions where
  skipVerification : Bool
  bundle : Option Bytes
  deriving DecidableEq, Repr

/-- The options of an entry.  A file is preferred to a bundle within the entry. -/
def TrustOptions.ofEntry (entry : VaultEntry) (files : Files) : Outcome TrustOptions :=
  match entry.caPath, entry.caBase64 with
  | some path, _ =>
      match files.read path with
      | .ok contents =>
          .ok { skipVerification := entry.skipVerification, bundle := some contents }
      | .error e => .error (.config ("cannot read CA certificate " ++ path ++ ": " ++ e.message))
  | none, some encoded =>
      match Base64.decode (utf8 (Text.trim encoded)) with
      | .ok contents =>
          .ok { skipVerification := entry.skipVerification, bundle := some contents }
      | .error e => .error (.config ("invalid base64 CA certificate: " ++ e.message))
  | none, none => .ok { skipVerification := entry.skipVerification, bundle := none }

end CertCatalog
