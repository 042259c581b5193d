import CertCatalog.Vault.Client
import CertCatalog.Vault.Memory

/-!
# Sessions with one vault

A client, its server in memory and a clock, and the steps that change them.  A listing that would
expire after the end of the clock crashes its caller, and the cache is out of reach for good.
-/

namespace CertCatalog

structure VaultSession where
  client : VaultClient
  backend : MemoryBackend
  /-- Milliseconds since the client was started. -/
  now : Nat
  clockEnd : Nat
  /-- A caller has crashed while it held the cache. -/
  isPoisoned : Bool
  deriving DecidableEq

inductive VaultStep where
  | client (step : ClientStep)
  | readCrl (mount : String)
  | rotateCrl (mount : String)
  | command (change : MemoryBackend.BackendCommand)
  | sleep (millis : Nat)
  deriving DecidableEq

inductive VaultAnswer where
  | client (answer : ClientAnswer)
  | crl (outcome : Outcome String)
  | done
  | crashed
  deriving DecidableEq

namespace VaultSession

def start (client : VaultClient) (backend : MemoryBackend) (clockEnd : Nat) : VaultSession :=
  { client := client, backend := backend, now := 0, clockEnd := clockEnd, isPoisoned := false }

def withState (s : VaultSession) (state : VaultClient × MemoryBackend) : VaultSession :=
  { s with client := state.1, backend := state.2 }

/-- Time passes; the last sweep on the way settles what is left in the cache. -/
def sleep (s : VaultSession) (millis : Nat) : VaultSession :=
  let later := s.now + millis
  match s.client.lastSweep? s.now later with
  | some time => { s with client := s.client.sweep time, now := later }
  | none => { s with now := later }

def receive (s : VaultSession) (certificates : List Certificate) (backend : MemoryBackend) :
    VaultAnswer × VaultSession :=
  if s.isPoisoned then
    (.client (.certificates (.ok certificates)), { s with backend := backend })
  else if s.client.cache.fits s.now s.clockEnd then
    (.client (.certificates (.ok certificates)),
      { s with client := s.client.keep certificates s.now, backend := backend })
  else
    (.crashed, { s with client := s.client.invalidate, backend := backend, isPoisoned := true })

/-- The listing of the client, which is only kept where it can be. -/
def list (s : VaultSession) : VaultAnswer × VaultSession :=
  match s.client.cached? s.now with
  | some certificates => (.client (.certificates (.ok certificates)), s)
  | none =>
      match VaultClient.freshListing MemoryBackend.server s.client.mounts s.backend with
      | (.ok certificates, backend) => s.receive certificates backend
      | (.error e, backend) => (.client (.certificates (.error e)), { s with backend := backend })

def step (s : VaultSession) : VaultStep → VaultAnswer × VaultSession
  | .client .list => s.list
  | .client step =>
      let (answer, state) :=
        (VaultClient.source MemoryBackend.server s.now).step (s.client, s.backend) step
      (.client answer, s.withState state)
  | .readCrl mount =>
      let (outcome, backend) := s.client.readCrl MemoryBackend.server mount s.backend
      (.crl outcome, { s with backend := backend })
  | .rotateCrl mount =>
      let (outcome, backend) := s.client.rotateCrl MemoryBackend.server mount s.backend
      (.client (.done outcome), { s with backend := backend })
  | .command change => (.done, { s with backend := s.backend.apply change })
  | .sleep millis => (.done, s.sleep millis)

def run (s : VaultSession) (steps : List VaultStep) : VaultSession :=
  steps.foldl (fun s step => (s.step step).2) s

def answers (s : VaultSession) : List VaultStep → List VaultAnswer
  | [] => []
  | step :: rest => (s.step step).1 :: answers (s.step step).2 rest

end VaultSession
end CertCatalog
