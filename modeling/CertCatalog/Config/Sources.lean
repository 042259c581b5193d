import CertCatalog.Config.Normal
import CertCatalog.Config.Variables

/-!
# Entries from variables

Two ways to configure vaults with variables alone: a list of addresses, and the variables of a
single vault.
-/

namespace CertCatalog

open CertCatalog.Text

/-! ## Shared settings -/

structure TrustSettings where
  skipVerification : Bool
  caBase64 : Option String
  caPath : Option String
  deriving DecidableEq, Repr

def TrustSettings.ofVariables (env : Variables) : TrustSettings :=
  { skipVerification := env.isSwitchedOn ["VAULT_TLS_INSECURE", "VAULT_SKIP_VERIFY"]
    caBase64 := env.firstValue? ["VAULT_TLS_CA_CERT_BASE64", "VAULT_CACERT_BYTES"]
    caPath := env.firstValue? ["VAULT_TLS_CA_CERT", "VAULT_CACERT"] }

def VaultEntry.withTrust (e : VaultEntry) (trust : TrustSettings) : VaultEntry :=
  { e with
    skipVerification := trust.skipVerification
    caBase64 := trust.caBase64
    caPath := trust.caPath }

/-! ## The address list -/

namespace AddressList

structure Item where
  id : Option String
  address : String
  token : Option String
  mount : Option String
  deriving DecidableEq, Repr

/-- The id before the first at sign, which must not be empty, and the rest of the item. -/
def splitId (text : String) : Option String × String :=
  match cut? text '@' with
  | some (id, rest) => if id.isEmpty then (none, text) else (some id, rest)
  | none => (none, text)

def Item.ofText? (text : String) : Option Item :=
  let (id, rest) := splitId text
  match splitOn rest '#' with
  | [address] => some { id := id, address := address, token := none, mount := none }
  | [address, token] => some { id := id, address := address, token := some token, mount := none }
  | [address, token, mount] =>
      some { id := id, address := address, token := some token, mount := some mount }
  | _ => none

structure Defaults where
  token : String
  trust : TrustSettings
  deriving DecidableEq, Repr

/-- The entry of an item at a place counted from one; an item without address or token has none. -/
def Item.complete? (defaults : Defaults) (place : Nat) (item : Item) : Option VaultEntry :=
  let token := item.token.getD defaults.token
  let mount := item.mount.getD defaultMount
  if item.address.isEmpty || token.isEmpty then none
  else
    some
      { VaultEntry.empty.withTrust defaults.trust with
        id := item.id.getD ("vault-" ++ toString place)
        address := item.address
        token := ⟨token⟩
        mount := mount
        mounts := [mount] }

def ofPiece? (defaults : Defaults) (place : Nat) (piece : String) : Option VaultEntry :=
  (nonBlank? piece).bind fun text => (Item.ofText? text).bind (Item.complete? defaults place)

/-- The entries of the pieces from `place` on.  Pieces without an entry keep their place. -/
def entriesFrom (defaults : Defaults) (place : Nat) : List String → List VaultEntry
  | [] => []
  | piece :: rest =>
      (ofPiece? defaults place piece).toList ++ entriesFrom defaults (place + 1) rest

def entries (defaults : Defaults) (text : String) : List VaultEntry :=
  entriesFrom defaults 1 (splitOn text ',')

def Defaults.ofVariables (env : Variables) : Defaults :=
  { token := (env.value? "VAULT_READ_TOKEN").getD ""
    trust := TrustSettings.ofVariables env }

def ofVariables (env : Variables) : List VaultEntry :=
  match env.value? "VAULT_ADDRS" with
  | some text => entries (Defaults.ofVariables env) text
  | none => []

end AddressList

namespace VaultEntry

/-! ## The single vault -/

def singleId : String := "default"

def singleMounts (env : Variables) : List String :=
  match env.firstValue? ["VAULT_PKI_MOUNTS", "VAULT_PKI_MOUNT"] with
  | some text =>
      match (splitOn text ',').filterMap nonBlank? with
      | [] => [defaultMount]
      | mounts => mounts
  | none => [defaultMount]

def single? (env : Variables) : Option VaultEntry := do
  let address ← env.value? "VAULT_ADDR"
  let token ← env.value? "VAULT_READ_TOKEN"
  let mounts := singleMounts env
  pure
    { empty.withTrust (TrustSettings.ofVariables env) with
      id := singleId
      address := address
      token := ⟨token⟩
      mount := mounts.headD defaultMount
      mounts := mounts
      displayName := singleId }

/-! ## Merging -/

/-- All first entries and the second entries with an id of their own; an entry needs an id. -/
def merge (first second : List VaultEntry) : List VaultEntry :=
  let kept := first.filter (!·.id.isEmpty)
  kept ++ second.filter fun e => !e.id.isEmpty && !(kept.map (·.id)).contains e.id

end VaultEntry
end CertCatalog
