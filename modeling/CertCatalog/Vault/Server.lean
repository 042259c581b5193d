import CertCatalog.Action

/-!
# Vault servers

What a client needs from one vault server that issues certificates below mounts.
-/

namespace CertCatalog

structure Health where
  initialized : Bool
  sealed : Bool
  deriving DecidableEq, Repr

structure Server (σ : Type) where
  listSerials : String → Action σ (List String)
  listRevoked : String → Action σ (List String)
  /-- The record of a mount and a serial, absent when there is none. -/
  readRecord : String → String → Action σ (Option String)
  revoke : String → String → String → Action σ Unit
  health : Action σ Health
  checkToken : Action σ Unit
  readCrl : String → Action σ String
  rotateCrl : String → Action σ Unit

end CertCatalog
