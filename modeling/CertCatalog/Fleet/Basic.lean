import CertCatalog.Fleet.Client

/-!
# Fleets

The clients of several vaults with the network and the clock that they share.  Every call of a
client is logged.
-/

namespace CertCatalog

/--
Two readings of time in milliseconds: expiry follows the wall, sweeps and deadlines follow the
timer.  The wall can stand still while the timer moves.
-/
structure Clock where
  wall : Nat
  timer : Nat
  wallMoves : Bool
  deriving DecidableEq, Repr

namespace Clock

def start (wallMoves : Bool) : Clock :=
  { wall := 0, timer := 0, wallMoves := wallMoves }

def wallAt (c : Clock) (timer : Nat) : Nat :=
  if c.wallMoves then c.wall + (timer - c.timer) else c.wall

def advance (c : Clock) (millis : Nat) : Clock :=
  { c with wall := c.wallAt (c.timer + millis), timer := c.timer + millis }

end Clock

/-- A client is named by its place in the list. -/
structure Fleet where
  clients : List Client
  network : Http.Network
  clock : Clock
  log : List (Nat × ClientStep)
  deriving DecidableEq

namespace Fleet

def start (clients : List Client) (network : Http.Network) (wallMoves : Bool) : Fleet :=
  { clients := clients, network := network, clock := .start wallMoves, log := [] }

/-! ## Time -/

/-- A client after the last sweep on the way to a later time. -/
def sweepUntil (clock : Clock) (millis : Nat) (c : Client) : Client :=
  match c.vault?.bind fun v => v.lastSweep? clock.timer (clock.timer + millis) with
  | some time => c.mapVault fun v => v.sweep (clock.wallAt time)
  | none => c

def advance (fleet : Fleet) (millis : Nat) : Fleet :=
  { fleet with
    clients := fleet.clients.map (sweepUntil fleet.clock millis)
    clock := fleet.clock.advance millis }

/-! ## Calls -/

def record (fleet : Fleet) (name : Nat) (call : ClientStep) : Fleet :=
  { fleet with log := fleet.log ++ [(name, call)] }

def setClient (fleet : Fleet) (name : Nat) (c : Client) : Fleet :=
  { fleet with clients := fleet.clients.set name c }

/-- Runs an action of one client; a name without a client is not configured. -/
def onClient {α : Type} (name : Nat) (action : Action (Client × Http.Network) α) :
    Action Fleet α :=
  fun fleet =>
    match fleet.clients[name]? with
    | none => (.error .notConfigured, fleet)
    | some c =>
        let (outcome, changed, net) := action (c, fleet.network)
        (outcome, { fleet.setClient name changed with network := net })

def call {α : Type} (name : Nat) (step : ClientStep)
    (operation : {σ : Type} → CertificateSource σ → Action σ α) : Action Fleet α :=
  fun fleet =>
    onClient name (Client.run fleet.clock.wall operation) (fleet.record name step)

def listDelay (fleet : Fleet) (name : Nat) : Nat :=
  (fleet.clients[name]?.map Client.listDelay).getD 0

def listNow (name : Nat) : Action Fleet (List Certificate) :=
  call name .list fun source => source.list

/-- A listing that is waited for. -/
def list (name : Nat) : Action Fleet (List Certificate) :=
  fun fleet =>
    let (outcome, after) := listNow name fleet
    (outcome, after.advance (fleet.listDelay name))

def timeTaken (before after : Fleet) (name : Nat) : Nat :=
  before.listDelay name + (after.network.waited - before.network.waited)

/--
A listing with a deadline that nobody waits for yet.  It is given up when it takes longer than the
deadline, and then nothing of it is kept.
-/
def listWithin (deadline : Nat) (name : Nat) (fleet : Fleet) :
    Option (Outcome (List Certificate)) × Fleet :=
  let (outcome, after) := listNow name fleet
  if deadline < timeTaken fleet after name then (none, { after with clients := fleet.clients })
  else (some outcome, after)

def details (name : Nat) (id : String) : Action Fleet CertificateDetails :=
  call name (.details id) fun source => source.details id

def pem (name : Nat) (id : String) : Action Fleet PemRecord :=
  call name (.pem id) fun source => source.pem id

def revoke (name : Nat) (id token : String) : Action Fleet Unit :=
  call name (.revoke id token) fun source => source.revoke id token

def check (name : Nat) : Action Fleet Unit :=
  call name .check fun source => source.check

def readCrl (name : Nat) (mount : String) : Action Fleet String :=
  onClient name (Client.onServer fun client server => client.readCrl server mount)

def rotateCrl (name : Nat) (mount : String) : Action Fleet Unit :=
  onClient name (Client.onServer fun client server => client.rotateCrl server mount)

def modify (fleet : Fleet) (name : Nat) (change : Client → Client) : Fleet :=
  match fleet.clients[name]? with
  | none => fleet
  | some c => fleet.setClient name (change c)

def invalidate (fleet : Fleet) (name : Nat) : Fleet :=
  (fleet.record name .invalidate).modify name Client.invalidate

def shutdown (fleet : Fleet) (name : Nat) : Fleet :=
  (fleet.record name .shutdown).modify name Client.shutdown

def cacheSize (fleet : Fleet) (name : Nat) : Nat :=
  (fleet.clients[name]?.map Client.cacheSize).getD 0

def source (name : Nat) : CertificateSource Fleet where
  list := list name
  details := details name
  pem := pem name
  revoke := revoke name
  check := check name
  invalidate fleet := fleet.invalidate name
  shutdown fleet := fleet.shutdown name
  cacheSize fleet := fleet.cacheSize name

/-! ## The log -/

def callsOf (fleet : Fleet) (name : Nat) : List ClientStep :=
  (fleet.log.filter (·.1 == name)).map (·.2)

def callCount (fleet : Fleet) (name : Nat) (step : ClientStep) : Nat :=
  (fleet.callsOf name).count step

/-- The id that a call asks for; a revocation without a token asks for none. -/
def requestedId? : ClientStep → Option String
  | .details id | .pem id => some id
  | .revoke id token => if Text.isAllBlank token then none else some id
  | _ => none

def requestedIds (fleet : Fleet) (name : Nat) : List String :=
  (fleet.callsOf name).filterMap requestedId?

def revocation? : ClientStep → Option (String × String)
  | .revoke id token => if Text.isAllBlank token then none else some (id, token)
  | _ => none

def revocations (fleet : Fleet) (name : Nat) : List (String × String) :=
  (fleet.callsOf name).filterMap revocation?

end Fleet
end CertCatalog
