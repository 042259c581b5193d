import CertCatalog.CatalogError
import CertCatalog.Text.Blank
import CertCatalog.Text.Split

/-!
# Certificate ids

Within a vault a certificate is named by its mount and its serial, with a colon between them.
Across vaults the id of the vault comes first, with a bar after it.
-/

namespace CertCatalog.CertificateId

open CertCatalog.Text

/-! ## Across vaults -/

def separator : Char := '|'

def compose (vaultId localId : String) : String :=
  vaultId ++ String.singleton separator ++ localId

/--
The vault id and the id within the vault.  The value is split at the first bar and both parts are
trimmed; a value without a bar belongs to the only vault.
-/
def parse (vaultIds : List String) (value : String) : Outcome (String × String) :=
  match cut? value separator with
  | some (vaultId, localId) =>
      if isAllBlank vaultId || isAllBlank localId then .error (.invalidCertificateId value)
      else .ok (trim vaultId, trim localId)
  | none =>
      match vaultIds with
      | [only] =>
          if isAllBlank value then .error (.invalidCertificateId value) else .ok (only, trim value)
      | _ => .error (.invalidCertificateId value)

def isAddressable (vaultId : String) : Bool :=
  !vaultId.isEmpty && trim vaultId == vaultId && !vaultId.toList.contains separator

/-! ## Within a vault -/

def mountSeparator : Char := ':'

def ofMount (mount serial : String) : String :=
  mount ++ String.singleton mountSeparator ++ serial

/-- A serial is one step of a path below its mount. -/
def isSerial (text : String) : Bool :=
  !text.isEmpty && !text.toList.contains '/' && text != "." && text != ".."

/-- A serial on its own belongs to the only mount. -/
def resolveSerial (mounts : List String) (id : String) : Outcome (String × String) :=
  match mounts with
  | [only] => if isSerial id then .ok (only, id) else .error (.invalidCertificateId id)
  | _ => .error (.unresolvableId id)

/--
The mount and the serial of an id.  What stands before the first colon counts as a mount only if it
is one of the mounts; otherwise the id is a serial, which may hold colons itself.
-/
def resolve (mounts : List String) (id : String) : Outcome (String × String) :=
  let id := trim id
  if id.isEmpty then .error (.invalidCertificateId id)
  else
    match cut? id mountSeparator with
    | some (mount, serial) =>
        if mounts.contains mount then
          if isSerial serial then .ok (mount, serial) else .error (.invalidCertificateId id)
        else resolveSerial mounts id
    | none => resolveSerial mounts id

end CertCatalog.CertificateId
