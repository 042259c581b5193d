import CertCatalog.Proofs.Vault.Servers
import CertCatalog.Vault.Session

/-!
# Calls to a server

A server that logs its calls shows what a client asks of it.  The log is all that is added: answers
and states are those of the server without a log.
-/

namespace CertCatalog

variable {σ τ α β : Type}

/-! ## Logging actions -/

namespace Action

def logging {ε : Type} (entry : ε) (action : Action σ α) : Action (σ × List ε) α :=
  fun (s, log) => ((action s).1, (action s).2, log ++ [entry])

theorem agree_logging {ε : Type} (entry : ε) (action : Action σ α) :
    Agree (fun t s => t.1 = s) (logging entry action) action := by
  rintro t s rfl
  exact ⟨rfl, rfl⟩

def Beside {ε : Type} (related : σ → τ → Prop) (logs : List ε → List ε → Prop) (x : σ × List ε)
    (y : τ × List ε) : Prop :=
  related x.1 y.1 ∧ logs x.2 y.2

theorem Agree.logging {ε : Type} {related : σ → τ → Prop} {logs : List ε → List ε → Prop}
    {action : Action σ α} {other : Action τ α} (h : Agree related action other) {entry : ε}
    (hlogs : ∀ log like, logs log like → logs (log ++ [entry]) (like ++ [entry])) :
    Agree (Beside related logs) (logging entry action) (logging entry other) := by
  rintro ⟨s, log⟩ ⟨t, like⟩ ⟨hst, hlog⟩
  obtain ⟨houtcome, hstate⟩ := h s t hst
  exact ⟨houtcome, hstate, hlogs log like hlog⟩

end Action

/-- The action adds these entries to what `view` reads off the state, whatever it answers. -/
def Action.Extends {ε : Type} (view : τ → List ε) (entries : List ε) (action : Action τ α) : Prop :=
  ∀ t, view (action t).2 = view t ++ entries

namespace Action.Extends

variable {ε : Type} {view : τ → List ε} {entries : List ε} {action : Action τ α}

theorem answer (outcome : Outcome α) : Extends view [] (.answer outcome) :=
  fun t => (List.append_nil (view t)).symm

theorem bind (h : Extends view entries action) {next : α → Action τ β}
    (hnext : ∀ value, Extends view [] (next value)) : Extends view entries (action >>= next) := by
  intro t
  cases hrun : action t with
  | mk outcome after =>
      have hafter : view after = view t ++ entries := by
        rw [← h t, hrun]
      cases outcome with
      | error e => rw [bind_of_error hrun, hafter]
      | ok value => rw [bind_of_ok hrun, hnext value after, hafter, List.append_nil]

end Action.Extends

/-! ## The log of a server -/

inductive ServerCall where
  | listSerials (mount : String)
  | listRevoked (mount : String)
  | readRecord (mount serial : String)
  | revoke (mount serial token : String)
  | health
  | checkToken
  | readCrl (mount : String)
  | rotateCrl (mount : String)
  deriving DecidableEq, Repr

def ServerCall.listedMount? : ServerCall → Option String
  | .listSerials mount => some mount
  | _ => none

def Server.recorded (server : Server σ) : Server (σ × List ServerCall) where
  listSerials mount := .logging (.listSerials mount) (server.listSerials mount)
  listRevoked mount := .logging (.listRevoked mount) (server.listRevoked mount)
  readRecord mount serial :=
    .logging (.readRecord mount serial) (server.readRecord mount serial)
  revoke mount serial token :=
    .logging (.revoke mount serial token) (server.revoke mount serial token)
  health := .logging .health server.health
  checkToken := .logging .checkToken server.checkToken
  readCrl mount := .logging (.readCrl mount) (server.readCrl mount)
  rotateCrl mount := .logging (.rotateCrl mount) (server.rotateCrl mount)

/-! ## The log changes nothing else -/

theorem Server.actsAlike_recorded (server : Server σ) :
    ActsAlike (fun t s => t.1 = s) server.recorded server where
  listSerials _ := Action.agree_logging _ _
  listRevoked _ := Action.agree_logging _ _
  readRecord _ _ := Action.agree_logging _ _
  health := Action.agree_logging _ _
  checkToken := Action.agree_logging _ _
  readCrl _ := Action.agree_logging _ _
  rotateCrl _ := Action.agree_logging _ _

namespace VaultClient

variable (server : Server σ)

/-! ## Calls of a listing -/

open CertCatalog.Action (Extends)

def listedMounts (t : σ × List ServerCall) : List String :=
  t.2.filterMap ServerCall.listedMount?

theorem extends_readAttributes (mount serial : String) :
    Extends listedMounts [] (readAttributes server.recorded mount serial) := by
  have hread : Extends listedMounts [] (server.recorded.readRecord mount serial) := by
    intro t
    simp [listedMounts, Server.recorded, Action.logging, ServerCall.listedMount?]
  have hpem : Extends listedMounts [] (readPem server.recorded mount serial) := by
    refine hread.bind fun found => ?_
    cases found with
    | none => exact .answer _
    | some pem => exact .answer _
  refine hpem.bind fun pem => ?_
  cases Attributes.ofPem pem with
  | ok attributes => exact .answer _
  | error e => exact .answer _

/-- The serials of a mount are asked for once, whether the rest of its listing succeeds or not. -/
theorem extends_listMount (mount : String) :
    Extends listedMounts [mount] (listMount server.recorded mount) := by
  have hserials : Extends listedMounts [mount] (server.recorded.listSerials mount) := by
    intro t
    simp [listedMounts, Server.recorded, Action.logging, ServerCall.listedMount?]
  have hrevoked : Extends listedMounts [] (server.recorded.listRevoked mount) := by
    intro t
    simp [listedMounts, Server.recorded, Action.logging, ServerCall.listedMount?]
  refine hserials.bind fun serials => hrevoked.bind fun revoked => ?_
  intro t
  have hreads := Action.attemptAll_log listedMounts (fun _ => [])
    (extends_readAttributes server mount) serials t
  rwa [List.flatMap_eq_nil_iff.mpr fun _ _ => rfl] at hreads

theorem extends_freshListing (mounts : List String) :
    Extends listedMounts mounts (freshListing server.recorded mounts) := by
  intro t
  have hmounts := Action.attemptAll_log listedMounts (fun mount => [mount])
    (extends_listMount server) mounts t
  rw [List.flatMap_singleton'] at hmounts
  exact hmounts

end VaultClient

/-! ## Calls of a session -/

namespace VaultSession

open CertCatalog.MemoryBackend

def calls (s : VaultSession) : VaultStep → List ServerCall
  | .client step =>
      ((VaultClient.source server.recorded s.now).step (s.client, s.backend, []) step).2.2.2
  | .readCrl mount => (s.client.readCrl server.recorded mount (s.backend, [])).2.2
  | .rotateCrl mount => (s.client.rotateCrl server.recorded mount (s.backend, [])).2.2
  | .command _ => []
  | .sleep _ => []

theorem calls_list_of_cached {s : VaultSession} {certificates : List Certificate}
    (hcached : s.client.cached? s.now = some certificates) : s.calls (.client .list) = [] := by
  simp only [calls, CertificateSource.step, VaultClient.source, VaultClient.list, hcached]

theorem listedMounts_calls_list {s : VaultSession} (hnone : s.client.cached? s.now = none) :
    (s.calls (.client .list)).filterMap ServerCall.listedMount? = s.client.mounts := by
  have hmounts := VaultClient.extends_freshListing server s.client.mounts (s.backend, [])
  simp only [calls, CertificateSource.step, VaultClient.source, VaultClient.list, hnone]
  cases hfresh : VaultClient.freshListing server.recorded s.client.mounts (s.backend, []) with
  | mk outcome after =>
      rw [hfresh] at hmounts
      cases outcome <;> exact hmounts

end VaultSession
end CertCatalog
