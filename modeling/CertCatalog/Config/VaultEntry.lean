import CertCatalog.Json.Decoder
import CertCatalog.Secret

/-!
# Vault entries

What the configuration says about one vault server.
-/

namespace CertCatalog

structure VaultEntry where
  id : String
  address : String
  token : Secret
  /-- A single mount, used when no others are listed. -/
  mount : String
  mounts : List String
  displayName : String
  skipVerification : Bool
  /-- Further trusted certificates, PEM in base64. -/
  caBase64 : Option String
  caPath : Option String
  enabled : Option Bool
  deriving DecidableEq, Repr

namespace VaultEntry

def empty : VaultEntry :=
  { id := "", address := "", token := ⟨""⟩, mount := "", mounts := [], displayName := ""
    skipVerification := false, caBase64 := none, caPath := none, enabled := none }

def isEnabled (e : VaultEntry) : Bool :=
  e.enabled.getD true

/-! ## JSON -/

def optionalField {α : Type} (name : String) (write : α → Json) :
    Option α → List (String × Json)
  | some value => [(name, write value)]
  | none => []

def toJson (e : VaultEntry) : Json :=
  .ofFields (
    [("id", .str e.id), ("address", .str e.address), ("token", e.token.toJson),
     ("pki_mount", .str e.mount), ("pki_mounts", .strings e.mounts),
     ("display_name", .str e.displayName), ("tls_insecure", .bool e.skipVerification)] ++
    optionalField "tls_ca_cert_base64" Json.str e.caBase64 ++
    optionalField "tls_ca_cert" Json.str e.caPath ++
    optionalField "enabled" Json.bool e.enabled)

def fieldNames : List String :=
  ["id", "address", "token", "pki_mount", "pki_mounts", "display_name", "tls_insecure",
   "tls_ca_cert_base64", "tls_ca_cert", "enabled"]

def ofFields? : List (Option Json) → Option VaultEntry
  | [id, address, token, mount, mounts, displayName, skipVerification, caBase64, caPath,
      enabled] => do
      pure
        { id := ← Json.orElse? "" Json.text? id
          address := ← Json.orElse? "" Json.text? address
          token := ⟨← Json.orElse? "" Json.text? token⟩
          mount := ← Json.orElse? "" Json.text? mount
          mounts := ← Json.orElse? [] (Json.list? Json.text?) mounts
          displayName := ← Json.orElse? "" Json.text? displayName
          skipVerification := ← Json.orElse? false Json.bool? skipVerification
          caBase64 := ← Json.orElse? none (Json.nullable? Json.text?) caBase64
          caPath := ← Json.orElse? none (Json.nullable? Json.text?) caPath
          enabled := ← Json.orElse? none (Json.nullable? Json.bool?) enabled }
  | _ => none

def ofJson? (json : Json) : Option VaultEntry :=
  (json.record? fieldNames).bind ofFields?

end VaultEntry
end CertCatalog
