import CertCatalog.Catalog
import CertCatalog.Config.Load

/-!
# The registry

The clients of all configured vaults.  A vault whose client cannot be set up stays in the catalog
without a client, so that it is reported as missing.
-/

namespace CertCatalog

structure Registry where
  /-- The clients that could be set up, by vault id. -/
  vaults : Table Nat
  displayNames : Table String
  catalog : Option Catalog
  deriving DecidableEq, Repr

namespace Registry

/-! ## Setting up -/

def millis (seconds : Nat) : Nat :=
  seconds * 1000

def clientOf (config : Configuration) (files : Files) (entry : VaultEntry) : Outcome Client := do
  let server ← Remote.ofEntry entry files (millis config.requestTimeout)
  let client := VaultClient.start entry.id entry.mounts (millis config.cacheTtl)
    (some (millis config.cleanupInterval))
  pure (.remote client server)

structure Assembly where
  clients : List Client
  vaults : Table Nat
  /-- All vaults, with or without a client. -/
  names : Table (Option Nat)
  displayNames : Table String

namespace Assembly

def empty : Assembly :=
  { clients := [], vaults := .empty, names := .empty, displayNames := .empty }

def add (a : Assembly) (entry : VaultEntry) (client : Outcome Client) : Assembly :=
  let displayNames := a.displayNames.insert entry.id entry.displayName
  match client with
  | .ok client =>
      { clients := a.clients ++ [client]
        vaults := a.vaults.insert entry.id a.clients.length
        names := a.names.insert entry.id (some a.clients.length)
        displayNames := displayNames }
  | .error _ => { a with names := a.names.insert entry.id none, displayNames := displayNames }

def ofConfiguration (config : Configuration) (files : Files) : Assembly :=
  config.vaults.foldl (fun a entry => a.add entry (clientOf config files entry)) empty

end Assembly

def ofConfiguration (config : Configuration) (files : Files) : Registry × List Client :=
  let a := Assembly.ofConfiguration config files
  let catalog :=
    if config.vaults.isEmpty then none else some (Catalog.ofClients config.vaultIds a.names)
  ({ vaults := a.vaults, displayNames := a.displayNames, catalog := catalog }, a.clients)

/-! ## Use -/

def source (r : Registry) : CertificateSource Fleet :=
  match r.catalog with
  | some catalog => catalog.source
  | none => .disabled

def vault? (r : Registry) (id : String) : Option Nat :=
  r.vaults.get? id

def displayName? (r : Registry) (id : String) : Option String :=
  r.displayNames.get? id

def vaultIds (r : Registry) : List String :=
  match r.catalog with
  | some catalog => catalog.vaultIds
  | none => []

def debugText (r : Registry) : String :=
  let catalog :=
    match r.catalog with
    | some catalog => "Some(" ++ catalog.debugText ++ ")"
    | none => "None"
  Text.describe "VaultRegistry" [("vaults", Text.quotedList r.vaults.keys), ("aggregator", catalog)]

end Registry
end CertCatalog
