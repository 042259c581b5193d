import CertCatalog.Fleet.Scripted
import CertCatalog.Vault.Client
import CertCatalog.Vault.Memory
import CertCatalog.Vault.Remote

/-!
# Clients of a fleet

The kinds of clients that can serve a catalog.  A remote client acts on the network, which all of
them share; all other clients carry their whole state.
-/

namespace CertCatalog

inductive Client where
  | disabled
  | scripted (script : ScriptedClient)
  | inMemory (client : VaultClient) (backend : MemoryBackend)
  | remote (client : VaultClient) (server : Remote)
  deriving DecidableEq

namespace Client

def run {α : Type} (now : Nat) (operation : {σ : Type} → CertificateSource σ → Action σ α) :
    Action (Client × Http.Network) α
  | (.disabled, net) => ((operation CertificateSource.disabled ()).1, .disabled, net)
  | (.scripted script, net) => ((operation script.source ()).1, .scripted script, net)
  | (.inMemory client backend, net) =>
      let (outcome, client, backend) :=
        operation (VaultClient.source MemoryBackend.server now) (client, backend)
      (outcome, .inMemory client backend, net)
  | (.remote client server, net) =>
      let (outcome, client, net) :=
        operation (VaultClient.source server.server now) (client, net)
      (outcome, .remote client server, net)

/-- Runs an operation of the server of a client; there may be none. -/
def onServer {α : Type} (operation : {σ : Type} → VaultClient → Server σ → Action σ α) :
    Action (Client × Http.Network) α
  | (.inMemory client backend, net) =>
      let (outcome, backend) := operation client MemoryBackend.server backend
      (outcome, .inMemory client backend, net)
  | (.remote client server, net) =>
      let (outcome, net) := operation client server.server net
      (outcome, .remote client server, net)
  | (other, net) => (.error .notConfigured, other, net)

def vault? : Client → Option VaultClient
  | .inMemory client _ | .remote client _ => some client
  | .disabled | .scripted _ => none

def mapVault (change : VaultClient → VaultClient) : Client → Client
  | .inMemory client backend => .inMemory (change client) backend
  | .remote client server => .remote (change client) server
  | other => other

def invalidate (c : Client) : Client :=
  c.mapVault VaultClient.invalidate

def shutdown (c : Client) : Client :=
  c.mapVault VaultClient.shutdown

def cacheSize : Client → Nat
  | .disabled => 0
  | .scripted script => script.cacheSize
  | .inMemory client _ | .remote client _ => client.cacheSize

def listDelay : Client → Nat
  | .scripted script => script.delay
  | _ => 0

end Client
end CertCatalog
