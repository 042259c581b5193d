import CertCatalog.Proofs.Vault.Calls
import CertCatalog.Proofs.Vault.Invariants

/-!
# What a server is called for

Runs in which a server is used on its own and through a client, and the calls that each step of them
makes.  A revocation is asked for only by a step that revokes, with the token of this step.
-/

namespace CertCatalog

variable {σ τ : Type} {related : σ → τ → Prop}

/-! ## Steps -/

inductive ServerStep where
  | call (call : ServerCall)
  | client (now : Nat) (step : ClientStep)
  | readCrl (mount : String)
  | rotateCrl (mount : String)
  | sweep (now : Nat)
  deriving DecidableEq

def Server.afterCall (server : Server σ) (s : σ) : ServerCall → σ
  | .listSerials mount => (server.listSerials mount s).2
  | .listRevoked mount => (server.listRevoked mount s).2
  | .readRecord mount serial => (server.readRecord mount serial s).2
  | .revoke mount serial token => (server.revoke mount serial token s).2
  | .health => (server.health s).2
  | .checkToken => (server.checkToken s).2
  | .readCrl mount => (server.readCrl mount s).2
  | .rotateCrl mount => (server.rotateCrl mount s).2

namespace VaultClient

def take (server : Server σ) (state : VaultClient × σ) : ServerStep → VaultClient × σ
  | .call call => (state.1, server.afterCall state.2 call)
  | .client now step => ((source server now).step state step).2
  | .readCrl mount => (state.1, (state.1.readCrl server mount state.2).2)
  | .rotateCrl mount => (state.1, (state.1.rotateCrl server mount state.2).2)
  | .sweep now => (state.1.sweep now, state.2)

def takeAll (server : Server σ) (state : VaultClient × σ) (steps : List ServerStep) :
    VaultClient × σ :=
  steps.foldl (take server) state

def callsOf (server : Server σ) : List ServerStep → VaultClient × σ → List (List ServerCall)
  | [], _ => []
  | step :: rest, (v, s) =>
      (take server.recorded (v, s, []) step).2.2 ::
        callsOf server rest (take server (v, s) step)

theorem mounts_take (server : Server σ) (v : VaultClient) (s : σ) (step : ServerStep) :
    (take server (v, s) step).1.mounts = v.mounts := by
  cases step with
  | client now step => exact mounts_step server now v s step
  | _ => rfl

end VaultClient

/-! ## Calls of a step -/

def ServerCall.isReading : ServerCall → Bool
  | .listSerials _ | .listRevoked _ | .readRecord _ _ => true
  | _ => false

/-- The call of a client that revokes: there is none without a token or without a certificate. -/
def revocation? (mounts : List String) (id token : String) : Option ServerCall :=
  if Text.isAllBlank token then none
  else
    match CertificateId.resolve mounts id with
    | .ok (mount, serial) => some (.revoke mount serial (Text.trim token))
    | .error _ => none

namespace ServerStep

def isRevoking : ServerStep → Bool
  | .call (.revoke _ _ _) => true
  | .client _ step => step.isRevoking
  | _ => false

/-- The calls that a step may make with a client of these mounts. -/
def Makes (mounts : List String) : ServerStep → List ServerCall → Prop
  | .call asked, calls => calls = [asked]
  | .client _ (.revoke id token), calls => calls = (revocation? mounts id token).toList
  | .client _ .check, calls => calls = [.health] ∨ calls = [.health, .checkToken]
  | .client _ _, calls => ∀ call ∈ calls, call.isReading = true
  | .readCrl mount, calls => calls = if mounts.contains mount then [.readCrl mount] else []
  | .rotateCrl mount, calls => calls = if mounts.contains mount then [.rotateCrl mount] else []
  | .sweep _, calls => calls = []

end ServerStep

namespace VaultClient

variable (server : Server σ) (v : VaultClient) (s : σ)

def LogsReadings (x y : σ × List ServerCall) : Prop :=
  x = y ∧ ∀ call ∈ x.2, call.isReading = true

theorem agree_logging_reading {α : Type} {call : ServerCall} (hcall : call.isReading = true)
    (action : Action σ α) :
    Action.Agree LogsReadings (.logging call action) (.logging call action) := by
  rintro ⟨s, log⟩ _ ⟨rfl, hlog⟩
  refine ⟨rfl, rfl, fun logged hlogged => ?_⟩
  rcases List.mem_append.mp hlogged with hold | hnew
  · exact hlog logged hold
  · exact List.mem_singleton.mp hnew ▸ hcall

theorem readsAgree_logsReadings : Server.ReadsAgree LogsReadings (fun _ => True) (fun _ _ => True)
    server.recorded server.recorded where
  listSerials _ _ := agree_logging_reading rfl _
  listRevoked _ _ := agree_logging_reading rfl _
  readRecord _ _ _ := agree_logging_reading rfl _
  isPlace_of_listed _ _ _ _ _ _ _ _ _ := trivial

theorem calls_of_isReading (now : Nat) {step : ClientStep} (hreading : step.isReading = true) :
    ∀ call ∈ (take server.recorded (v, s, []) (.client now step)).2.2, call.isReading = true := by
  have hstart : LogsReadings (s, []) (s, []) := ⟨rfl, fun _ hcall => nomatch hcall⟩
  exact (agree_step_of_isReading (readsAgree_logsReadings server) (v := v) (fun _ _ => trivial)
    hreading (fun _ _ _ _ _ => ⟨trivial, trivial⟩) now hstart).2.2.2

theorem calls_revoke (now : Nat) (id token : String) :
    (take server.recorded (v, s, []) (.client now (.revoke id token))).2.2 =
      (revocation? v.mounts id token).toList := by
  simp only [take, CertificateSource.step, source, onServer, revoke, revocation?]
  cases Text.isAllBlank token with
  | true => rfl
  | false =>
      simp only [resolve, Bool.false_eq_true, if_false]
      cases CertificateId.resolve v.mounts id with
      | error e => rfl
      | ok place => rfl

theorem calls_check (now : Nat) :
    (take server.recorded (v, s, []) (.client now .check)).2.2 = [.health] ∨
      (take server.recorded (v, s, []) (.client now .check)).2.2 = [.health, .checkToken] := by
  simp only [take, CertificateSource.step, source, onServer, check]
  have hlog : (server.recorded.health (s, [])).2.2 = [.health] := rfl
  cases hrun : server.recorded.health (s, []) with
  | mk outcome after =>
      rw [hrun] at hlog
      obtain ⟨next, log⟩ := after
      obtain rfl : log = [.health] := hlog
      cases outcome with
      | error e =>
          rw [Action.bind_of_error hrun]
          exact .inl rfl
      | ok health =>
          rw [Action.bind_of_ok hrun]
          cases health.initialized with
          | false => exact .inl rfl
          | true =>
              cases health.sealed with
              | true => exact .inl rfl
              | false => exact .inr rfl

theorem calls_onMount {α : Type} (mount : String) {call : ServerCall} (action : Action σ α) :
    (v.onMount mount (.logging call action) (s, [])).2.2 =
      if v.mounts.contains mount then [call] else [] := by
  unfold onMount
  split <;> rfl

theorem makes_take (step : ServerStep) :
    step.Makes v.mounts (take server.recorded (v, s, []) step).2.2 := by
  cases step with
  | call call => cases call <;> rfl
  | client now step =>
      cases step with
      | revoke id token => exact calls_revoke server v s now id token
      | check => exact calls_check server v s now
      | _ => exact calls_of_isReading server v s now rfl
  | readCrl mount => exact calls_onMount v s mount _
  | rotateCrl mount => exact calls_onMount v s mount _
  | sweep now => rfl

theorem forall₂_callsOf (steps : List ServerStep) :
    List.Forall₂ (ServerStep.Makes v.mounts) steps (callsOf server steps (v, s)) := by
  induction steps generalizing v s with
  | nil => exact .nil
  | cons step rest ih =>
      have hrest := ih (take server (v, s) step).1 (take server (v, s) step).2
      rw [mounts_take] at hrest
      exact .cons (makes_take server v s step) hrest

end VaultClient

/-! ## Two servers -/

namespace VaultClient

open CertCatalog.Action (Agree Beside)
open CertCatalog.Server (ActsAlike)

variable {first : Server σ} {second : Server τ}

theorem agree_take_of_not_isRevoking (h : ActsAlike related first second) {step : ServerStep}
    (hstep : step.isRevoking = false) (v : VaultClient) {s : σ} {t : τ} (hst : related s t) :
    SameClient related (take first (v, s) step) (take second (v, t) step) := by
  cases step with
  | call call =>
      refine ⟨rfl, ?_⟩
      cases call with
      | listSerials mount => exact (h.listSerials mount s t hst).2
      | listRevoked mount => exact (h.listRevoked mount s t hst).2
      | readRecord mount serial => exact (h.readRecord mount serial s t hst).2
      | revoke mount serial token => cases hstep
      | health => exact (h.health s t hst).2
      | checkToken => exact (h.checkToken s t hst).2
      | readCrl mount => exact (h.readCrl mount s t hst).2
      | rotateCrl mount => exact (h.rotateCrl mount s t hst).2
  | client now step => exact (agree_step_of_not_isRevoking h v hstep now hst).2
  | readCrl mount => exact ⟨rfl, (agree_onMount v mount (h.readCrl mount) s t hst).2⟩
  | rotateCrl mount => exact ⟨rfl, (agree_onMount v mount (h.rotateCrl mount) s t hst).2⟩
  | sweep now => exact ⟨rfl, hst⟩

theorem agree_take (h : ActsAlike related first second)
    (hrevoke : ∀ mount serial token,
      Agree related (first.revoke mount serial token) (second.revoke mount serial token))
    (step : ServerStep) (v : VaultClient) {s : σ} {t : τ} (hst : related s t) :
    SameClient related (take first (v, s) step) (take second (v, t) step) := by
  cases hstep : step.isRevoking with
  | false => exact agree_take_of_not_isRevoking h hstep v hst
  | true =>
      cases step with
      | call call =>
          cases call with
          | revoke mount serial token => exact ⟨rfl, (hrevoke mount serial token s t hst).2⟩
          | _ => cases hstep
      | client now step =>
          cases step with
          | revoke id token =>
              exact ⟨rfl, (agree_revoke rfl (fun mount serial => hrevoke mount serial _) v id
                s t hst).2⟩
          | _ => cases hstep
      | _ => cases hstep

theorem actsAlike_beside (h : ActsAlike related first second)
    {logs : List ServerCall → List ServerCall → Prop}
    (hlogs : ∀ call log like, logs log like → logs (log ++ [call]) (like ++ [call])) :
    ActsAlike (Beside related logs) first.recorded second.recorded where
  listSerials mount := (h.listSerials mount).logging (hlogs _)
  listRevoked mount := (h.listRevoked mount).logging (hlogs _)
  readRecord mount serial := (h.readRecord mount serial).logging (hlogs _)
  health := h.health.logging (hlogs _)
  checkToken := h.checkToken.logging (hlogs _)
  readCrl mount := (h.readCrl mount).logging (hlogs _)
  rotateCrl mount := (h.rotateCrl mount).logging (hlogs _)

theorem actsAlike_refl (server : Server σ) : ActsAlike Eq server server where
  listSerials _ := .refl _
  listRevoked _ := .refl _
  readRecord _ _ := .refl _
  health := .refl _
  checkToken := .refl _
  readCrl _ := .refl _
  rotateCrl _ := .refl _

theorem take_recorded (server : Server σ) (v : VaultClient) (s : σ) (log : List ServerCall)
    (step : ServerStep) :
    take server.recorded (v, s, log) step =
      ((take server (v, s) step).1, (take server (v, s) step).2,
        log ++ (take server.recorded (v, s, []) step).2.2) := by
  have hplain := agree_take server.actsAlike_recorded (fun _ _ _ => Action.agree_logging _ _) step v
    (show (s, log).1 = s from rfl)
  have happend : ∀ (call : ServerCall) (long short : List ServerCall),
      long = log ++ short → long ++ [call] = log ++ (short ++ [call]) := by
    rintro call _ short rfl
    exact List.append_assoc ..
  have hlonger := agree_take (actsAlike_beside (actsAlike_refl server) happend)
    (fun _ _ _ => (Agree.refl _).logging (happend _)) step v
    (show Beside Eq (fun long short => long = log ++ short) (s, log) (s, []) from
      ⟨rfl, (List.append_nil log).symm⟩)
  exact Prod.ext hplain.1 (Prod.ext hplain.2 hlonger.2.2)

end VaultClient

/-! ## Runs -/

theorem Server.Keeps.take {server : Server σ} {invariant : σ → Prop} (h : server.Keeps invariant)
    (v : VaultClient) {s : σ} (hs : invariant s) (step : ServerStep) :
    invariant (VaultClient.take server (v, s) step).2 := by
  cases step with
  | call call =>
      cases call with
      | listSerials mount => exact h.listSerials mount s hs
      | listRevoked mount => exact h.listRevoked mount s hs
      | readRecord mount serial => exact h.readRecord mount serial s hs
      | revoke mount serial token => exact h.revoke mount serial token s hs
      | health => exact h.health s hs
      | checkToken => exact h.checkToken s hs
      | readCrl mount => exact h.readCrl mount s hs
      | rotateCrl mount => exact h.rotateCrl mount s hs
  | client now step =>
      have hsource : (VaultClient.source server now).Keeps fun state =>
          True ∧ invariant state.2 :=
        h.source (fun _ _ (_ : True) _ => trivial) (fun _ _ => trivial) (fun _ _ => trivial)
      exact (hsource.step ⟨trivial, hs⟩ step).2
  | readCrl mount => exact Server.Keeps.onMount (h.readCrl mount) v mount s hs
  | rotateCrl mount => exact Server.Keeps.onMount (h.rotateCrl mount) v mount s hs
  | sweep now => exact hs

namespace VaultClient

/-- What every call leaves true of the log and the state, a run leaves true with all its calls. -/
theorem takeAll_of_keeps {server : Server σ} {P : List ServerCall → σ → Prop}
    (h : server.recorded.Keeps fun x => P x.2 x.1) (v : VaultClient) {s : σ}
    {log : List ServerCall} (hs : P log s) (steps : List ServerStep) :
    P (log ++ (callsOf server steps (v, s)).flatten) (takeAll server (v, s) steps).2 := by
  induction steps generalizing v s log with
  | nil => simpa [callsOf, takeAll] using hs
  | cons step rest ih =>
      -- The calls of the first step go to the log, with which the rest of the run starts.
      have hnext := h.take v (s := (s, log)) hs step
      rw [take_recorded] at hnext
      have hrest := ih (take server (v, s) step).1 hnext
      rw [List.append_assoc] at hrest
      exact hrest

end VaultClient

/-! ## Other tokens -/

namespace ServerStep

inductive SameButToken : ServerStep → ServerStep → Prop
  | refl (step : ServerStep) : SameButToken step step
  | call (mount serial token other : String) :
      SameButToken (.call (.revoke mount serial token)) (.call (.revoke mount serial other))
  | client (now : Nat) (id token other : String) :
      SameButToken (.client now (.revoke id token)) (.client now (.revoke id other))

variable {step other : ServerStep}

theorem SameButToken.isRevoking (h : step.SameButToken other) :
    step.isRevoking = other.isRevoking := by
  cases h <;> rfl

theorem SameButToken.eq_of_not_isRevoking (h : step.SameButToken other)
    (hstep : step.isRevoking = false) : other = step := by
  cases h with
  | refl => rfl
  | call mount serial token other => cases hstep
  | client now id token other => cases hstep

theorem eq_of_makes {mounts : List String} (hstep : step.isRevoking = true)
    {calls others : List ServerCall} (hcalls : step.Makes mounts calls)
    (hothers : step.Makes mounts others) : calls = others := by
  cases step with
  | call asked => exact Eq.trans hcalls (Eq.symm hothers)
  | client now step =>
      cases step with
      | revoke id token => exact Eq.trans hcalls (Eq.symm hothers)
      | _ => cases hstep
  | _ => cases hstep

end ServerStep

namespace VaultClient

open CertCatalog.Action (Keeps Beside)
open CertCatalog.Server (ActsAlike)

theorem keeps_take_of_isRevoking {server : Server σ} {invariant : σ → Prop}
    (h : ∀ mount serial token, Keeps invariant (server.revoke mount serial token))
    {step : ServerStep} (hstep : step.isRevoking = true) (v : VaultClient) {s : σ}
    (hs : invariant s) :
    (take server (v, s) step).1 = v ∧ invariant (take server (v, s) step).2 := by
  cases step with
  | call call =>
      cases call with
      | revoke mount serial token => exact ⟨rfl, h mount serial token s hs⟩
      | _ => cases hstep
  | client now step =>
      cases step with
      | revoke id token =>
          have hkeeps : Keeps invariant (v.revoke server id token) := by
            unfold revoke
            split
            · exact .answer invariant _
            · exact (Keeps.answer invariant _).bind fun place => h place.1 place.2 _
          exact ⟨rfl, hkeeps s hs⟩
      | _ => cases hstep
  | _ => cases hstep

/-- What relates the states of two servers does not see the revocations of either of them. -/
structure HidesRevocations (related : σ → τ → Prop) (first : Server σ) (second : Server τ) :
    Prop where
  left : ∀ t mount serial token, Keeps (fun s => related s t) (first.revoke mount serial token)
  right : ∀ s mount serial token, Keeps (fun t => related s t) (second.revoke mount serial token)

variable {first : Server σ} {second : Server τ}

theorem take_alike (hacts : ActsAlike related first second)
    (hhides : HidesRevocations related first second) {step other : ServerStep}
    (hsteps : step.SameButToken other) (v : VaultClient) {s : σ} {t : τ} (hst : related s t) :
    SameClient related (take first (v, s) step) (take second (v, t) other) ∧
      (step = other → (take first.recorded (v, s, []) step).2.2 =
        (take second.recorded (v, t, []) other).2.2) := by
  cases hrevoking : step.isRevoking with
  | true =>
      have hother : other.isRevoking = true := hsteps.isRevoking ▸ hrevoking
      -- The answers may differ here, so the sides move one after the other.
      obtain ⟨hfirst, hafter⟩ := keeps_take_of_isRevoking (hhides.left t) hrevoking v hst
      obtain ⟨hsecond, hboth⟩ := keeps_take_of_isRevoking (hhides.right _) hother v hafter
      refine ⟨⟨hfirst.trans hsecond.symm, hboth⟩, ?_⟩
      rintro rfl
      exact ServerStep.eq_of_makes hrevoking (makes_take first v s step) (makes_take second v t step)
  | false =>
      obtain rfl := hsteps.eq_of_not_isRevoking hrevoking
      refine ⟨agree_take_of_not_isRevoking hacts hrevoking v hst, fun _ => ?_⟩
      have hlogs : ∀ (call : ServerCall) (log like : List ServerCall),
          log = like → log ++ [call] = like ++ [call] := by
        rintro call log _ rfl
        rfl
      exact (agree_take_of_not_isRevoking (actsAlike_beside hacts hlogs) hrevoking v
        (show Beside related Eq (s, []) (t, []) from ⟨hst, rfl⟩)).2.2

/-- Other tokens of some steps change no call of any other step. -/
theorem callsOf_alike (hacts : ActsAlike related first second)
    (hhides : HidesRevocations related first second) {steps others : List ServerStep}
    (hsteps : List.Forall₂ ServerStep.SameButToken steps others) (v : VaultClient) {s : σ} {t : τ}
    (hst : related s t) {place : Nat} (hplace : steps[place]? = others[place]?) :
    (callsOf first steps (v, s))[place]? = (callsOf second others (v, t))[place]? := by
  induction hsteps generalizing v s t place with
  | nil => rfl
  | @cons step other steps others hstep hrest ih =>
      obtain ⟨⟨hclient, hstate⟩, hcalls⟩ := take_alike hacts hhides hstep v hst
      cases place with
      | zero => exact congrArg some (hcalls (Option.some.inj hplace))
      | succ place =>
          have hnext := ih (take first (v, s) step).1 hstate hplace
          have hsame : ((take first (v, s) step).1, (take second (v, t) other).2) =
              take second (v, t) other := Prod.ext hclient rfl
          rw [hsame] at hnext
          exact hnext

end VaultClient
end CertCatalog
