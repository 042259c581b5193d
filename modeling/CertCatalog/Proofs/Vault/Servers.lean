import CertCatalog.Proofs.Action
import CertCatalog.Vault.Client

/-!
# Two servers behind one client

A client cannot tell two servers apart that answer alike.  For reading it is enough that they answer
alike at the mounts of the client and at the places that can be asked for there.
-/

namespace CertCatalog

variable {σ τ α : Type} {related : σ → τ → Prop}

/-- The servers answer alike at certain mounts and places, those of all listed serials among them. -/
structure Server.ReadsAgree (related : σ → τ → Prop) (isMount : String → Prop)
    (isPlace : String → String → Prop) (first : Server σ) (second : Server τ) : Prop where
  listSerials : ∀ mount, isMount mount →
    Action.Agree related (first.listSerials mount) (second.listSerials mount)
  listRevoked : ∀ mount, isMount mount →
    Action.Agree related (first.listRevoked mount) (second.listRevoked mount)
  readRecord : ∀ mount serial, isPlace mount serial →
    Action.Agree related (first.readRecord mount serial) (second.readRecord mount serial)
  isPlace_of_listed : ∀ mount s t serials, isMount mount → related s t →
    (first.listSerials mount s).1 = .ok serials → ∀ serial ∈ serials, isPlace mount serial

structure Server.ActsAlike (related : σ → τ → Prop) (first : Server σ) (second : Server τ) :
    Prop where
  listSerials : ∀ mount, Action.Agree related (first.listSerials mount) (second.listSerials mount)
  listRevoked : ∀ mount, Action.Agree related (first.listRevoked mount) (second.listRevoked mount)
  readRecord : ∀ mount serial,
    Action.Agree related (first.readRecord mount serial) (second.readRecord mount serial)
  health : Action.Agree related first.health second.health
  checkToken : Action.Agree related first.checkToken second.checkToken
  readCrl : ∀ mount, Action.Agree related (first.readCrl mount) (second.readCrl mount)
  rotateCrl : ∀ mount, Action.Agree related (first.rotateCrl mount) (second.rotateCrl mount)

theorem Server.ActsAlike.readsAgree {first : Server σ} {second : Server τ}
    (h : ActsAlike related first second) :
    ReadsAgree related (fun _ => True) (fun _ _ => True) first second where
  listSerials mount _ := h.listSerials mount
  listRevoked mount _ := h.listRevoked mount
  readRecord mount serial _ := h.readRecord mount serial
  isPlace_of_listed _ _ _ _ _ _ _ _ _ := trivial

namespace VaultClient

open CertCatalog.Action (Agree)
open CertCatalog.Server (ReadsAgree)

variable {isMount : String → Prop} {isPlace : String → String → Prop} {first : Server σ}
  {second : Server τ}

/-! ## Reading -/

theorem agree_readPem (h : ReadsAgree related isMount isPlace first second)
    {mount serial : String} (hplace : isPlace mount serial) :
    Agree related (readPem first mount serial) (readPem second mount serial) := by
  refine (h.readRecord mount serial hplace).bind fun found _ => ?_
  cases found with
  | none => exact .answer _
  | some pem => exact .answer _

theorem agree_readAttributes (h : ReadsAgree related isMount isPlace first second)
    {mount serial : String} (hplace : isPlace mount serial) :
    Agree related (readAttributes first mount serial) (readAttributes second mount serial) := by
  refine (agree_readPem h hplace).bind fun pem _ => ?_
  cases Attributes.ofPem pem with
  | ok attributes => exact .answer _
  | error e => exact .answer _

theorem agree_listMount (h : ReadsAgree related isMount isPlace first second) {mount : String}
    (hmount : isMount mount) : Agree related (listMount first mount) (listMount second mount) := by
  refine (h.listSerials mount hmount).bind fun serials hlisted =>
    (h.listRevoked mount hmount).bind fun revoked _ => ?_
  obtain ⟨s, t, hst, hserials⟩ := hlisted
  have hplaces := h.isPlace_of_listed mount s t serials hmount hst hserials
  intro s t hst
  obtain ⟨houtcomes, hlast⟩ := Agree.attemptAll
    (fun serial hserial => agree_readAttributes h (hplaces serial hserial)) hst
  simp only [houtcomes]
  exact ⟨trivial, hlast⟩

theorem agree_freshListing (h : ReadsAgree related isMount isPlace first second)
    {mounts : List String} (hmounts : ∀ mount ∈ mounts, isMount mount) :
    Agree related (freshListing first mounts) (freshListing second mounts) := by
  intro s t hst
  obtain ⟨houtcomes, hlast⟩ := Agree.attemptAll
    (fun mount hmount => agree_listMount h (hmounts mount hmount)) hst
  simp only [freshListing, houtcomes]
  exact ⟨trivial, hlast⟩

def SameClient (related : σ → τ → Prop) (x : VaultClient × σ) (y : VaultClient × τ) : Prop :=
  x.1 = y.1 ∧ related x.2 y.2

theorem agree_onServer (action : VaultClient → Action σ α) (other : VaultClient → Action τ α)
    {v : VaultClient} (h : Agree related (action v) (other v)) {s : σ} {t : τ}
    (hst : related s t) :
    (onServer action (v, s)).1 = (onServer other (v, t)).1 ∧
      SameClient related (onServer action (v, s)).2 (onServer other (v, t)).2 := by
  obtain ⟨houtcome, hstate⟩ := h s t hst
  exact ⟨houtcome, rfl, hstate⟩

theorem agree_list (h : ReadsAgree related isMount isPlace first second) {v : VaultClient}
    (hmounts : ∀ mount ∈ v.mounts, isMount mount) (now : Nat) {s : σ} {t : τ} (hst : related s t) :
    (list first now (v, s)).1 = (list second now (v, t)).1 ∧
      SameClient related (list first now (v, s)).2 (list second now (v, t)).2 := by
  simp only [list]
  cases v.cached? now with
  | some certificates => exact ⟨rfl, rfl, hst⟩
  | none =>
      obtain ⟨houtcome, hstate⟩ := agree_freshListing h hmounts s t hst
      cases hfirst : freshListing first v.mounts s with
      | mk outcome after =>
          rw [hfirst] at houtcome hstate
          have hsecond : freshListing second v.mounts t =
              (outcome, (freshListing second v.mounts t).2) := Prod.ext houtcome.symm rfl
          rw [hsecond]
          cases outcome <;> exact ⟨rfl, rfl, hstate⟩

theorem agree_details (h : ReadsAgree related isMount isPlace first second) {v : VaultClient}
    {id : String} (hid : ∀ mount serial, v.resolve id = .ok (mount, serial) →
      isMount mount ∧ isPlace mount serial) :
    Agree related (v.details first id) (v.details second id) := by
  refine Agree.answer_bind fun (mount, serial) hresolve => ?_
  obtain ⟨hmount, hplace⟩ := hid mount serial hresolve
  refine (agree_readAttributes h hplace).bind fun (pem, attributes) _ => ?_
  exact (h.listRevoked mount hmount).bind fun revoked _ => .answer _

theorem agree_pem (h : ReadsAgree related isMount isPlace first second) {v : VaultClient}
    {id : String} (hid : ∀ mount serial, v.resolve id = .ok (mount, serial) →
      isMount mount ∧ isPlace mount serial) :
    Agree related (v.pem first id) (v.pem second id) := by
  refine Agree.answer_bind fun (mount, serial) hresolve => ?_
  exact (agree_readPem h (hid mount serial hresolve).2).bind fun text _ => .answer _

/-! ## The other operations -/

theorem agree_revoke {token other : String}
    (hblank : Text.isAllBlank token = Text.isAllBlank other)
    (h : ∀ mount serial, Agree related (first.revoke mount serial (Text.trim token))
      (second.revoke mount serial (Text.trim other))) (v : VaultClient) (id : String) :
    Agree related (v.revoke first id token) (v.revoke second id other) := by
  unfold revoke
  rw [hblank]
  split
  · exact .answer _
  · exact Agree.answer_bind fun (mount, serial) _ => h mount serial

theorem agree_check (hhealth : Agree related first.health second.health)
    (htoken : Agree related first.checkToken second.checkToken) :
    Agree related (check first) (check second) := by
  refine hhealth.bind fun health _ => ?_
  split
  · exact .answer _
  · split
    · exact .answer _
    · exact htoken

theorem agree_onMount (v : VaultClient) (mount : String) {action : Action σ α}
    {other : Action τ α} (h : Agree related action other) :
    Agree related (v.onMount mount action) (v.onMount mount other) := by
  unfold onMount
  split
  · exact h
  · exact .answer _

end VaultClient

/-! ## Steps -/

/-- Steps that neither revoke nor look at the server as a whole. -/
def ClientStep.isReading : ClientStep → Bool
  | .revoke _ _ | .check => false
  | _ => true

def ClientStep.isRevoking : ClientStep → Bool
  | .revoke _ _ => true
  | _ => false

def ClientStep.readId? : ClientStep → Option String
  | .details id | .pem id => some id
  | _ => none

theorem CertificateSource.step_details (source : CertificateSource σ) (s : σ) (id : String) :
    source.step s (.details id) = (.details (source.details id s).1, (source.details id s).2) := rfl

theorem CertificateSource.step_pem (source : CertificateSource σ) (s : σ) (id : String) :
    source.step s (.pem id) = (.pem (source.pem id s).1, (source.pem id s).2) := rfl

namespace VaultClient

open CertCatalog.Server (ReadsAgree ActsAlike)

variable {isMount : String → Prop} {isPlace : String → String → Prop} {first : Server σ}
  {second : Server τ}

theorem agree_step_of_isReading (h : ReadsAgree related isMount isPlace first second)
    {v : VaultClient} (hmounts : ∀ mount ∈ v.mounts, isMount mount) {step : ClientStep}
    (hreading : step.isReading = true)
    (hid : ∀ id, step.readId? = some id → ∀ mount serial, v.resolve id = .ok (mount, serial) →
      isMount mount ∧ isPlace mount serial) (now : Nat) {s : σ} {t : τ} (hst : related s t) :
    ((source first now).step (v, s) step).1 = ((source second now).step (v, t) step).1 ∧
      SameClient related ((source first now).step (v, s) step).2
        ((source second now).step (v, t) step).2 := by
  cases step with
  | list =>
      obtain ⟨houtcome, hstate⟩ := agree_list h hmounts now hst
      exact ⟨congrArg ClientAnswer.certificates houtcome, hstate⟩
  | details id =>
      obtain ⟨houtcome, hstate⟩ := agree_onServer (fun v => v.details first id)
        (fun v => v.details second id) (agree_details h (hid id rfl)) hst
      rw [CertificateSource.step_details, CertificateSource.step_details]
      exact ⟨congrArg ClientAnswer.details houtcome, hstate⟩
  | pem id =>
      obtain ⟨houtcome, hstate⟩ := agree_onServer (fun v => v.pem first id)
        (fun v => v.pem second id) (agree_pem h (hid id rfl)) hst
      rw [CertificateSource.step_pem, CertificateSource.step_pem]
      exact ⟨congrArg ClientAnswer.pem houtcome, hstate⟩
  | revoke id token => cases hreading
  | check => cases hreading
  | invalidate => exact ⟨rfl, rfl, hst⟩
  | shutdown => exact ⟨rfl, rfl, hst⟩
  | cacheSize => exact ⟨rfl, rfl, hst⟩

theorem agree_step_of_not_isRevoking (h : ActsAlike related first second) (v : VaultClient)
    {step : ClientStep} (hstep : step.isRevoking = false) (now : Nat) {s : σ} {t : τ}
    (hst : related s t) :
    ((source first now).step (v, s) step).1 = ((source second now).step (v, t) step).1 ∧
      SameClient related ((source first now).step (v, s) step).2
        ((source second now).step (v, t) step).2 := by
  cases hreading : step.isReading with
  | true =>
      exact agree_step_of_isReading h.readsAgree (fun _ _ => trivial) hreading
        (fun _ _ _ _ _ => ⟨trivial, trivial⟩) now hst
  | false =>
      cases step with
      | check =>
          obtain ⟨houtcome, hstate⟩ := agree_check h.health h.checkToken s t hst
          exact ⟨congrArg ClientAnswer.done houtcome, rfl, hstate⟩
      | revoke id token => cases hstep
      | _ => cases hreading

/-! ## Runs -/

theorem mounts_list (server : Server σ) (now : Nat) (v : VaultClient) (s : σ) :
    (list server now (v, s)).2.1.mounts = v.mounts := by
  simp only [list]
  cases v.cached? now with
  | some certificates => rfl
  | none =>
      cases freshListing server v.mounts s with
      | mk outcome after => cases outcome <;> rfl

theorem mounts_step (server : Server σ) (now : Nat) (v : VaultClient) (s : σ) (step : ClientStep) :
    ((source server now).step (v, s) step).2.1.mounts = v.mounts := by
  cases step with
  | list => exact mounts_list server now v s
  | _ => rfl

def runSteps (server : Server σ) :
    List (Nat × ClientStep) → VaultClient × σ → List ClientAnswer × VaultClient × σ
  | [], state => ([], state)
  | (now, step) :: rest, state =>
      let (answer, next) := (source server now).step state step
      let (answers, last) := runSteps server rest next
      (answer :: answers, last)

theorem agree_runSteps (h : ReadsAgree related isMount isPlace first second) {v : VaultClient}
    (hmounts : ∀ mount ∈ v.mounts, isMount mount) {steps : List (Nat × ClientStep)}
    (hsteps : ∀ timed ∈ steps, timed.2.isReading = true ∧ ∀ id, timed.2.readId? = some id →
      ∀ mount serial, CertificateId.resolve v.mounts id = .ok (mount, serial) →
        isMount mount ∧ isPlace mount serial) {s : σ} {t : τ} (hst : related s t) :
    (runSteps first steps (v, s)).1 = (runSteps second steps (v, t)).1 ∧
      SameClient related (runSteps first steps (v, s)).2 (runSteps second steps (v, t)).2 := by
  induction steps generalizing v s t with
  | nil => exact ⟨rfl, rfl, hst⟩
  | cons timed rest ih =>
      obtain ⟨now, step⟩ := timed
      obtain ⟨hreading, hid⟩ := hsteps (now, step) (by simp)
      obtain ⟨hanswer, hclient, hstate⟩ := agree_step_of_isReading h hmounts hreading hid now hst
      have hkept := mounts_step first now v s step
      simp only [runSteps]
      generalize (source first now).step (v, s) step = one at hanswer hclient hstate hkept ⊢
      generalize (source second now).step (v, t) step = other at hanswer hclient hstate ⊢
      obtain ⟨answer, w, s'⟩ := one
      obtain ⟨answer', w', t'⟩ := other
      obtain rfl : answer = answer' := hanswer
      obtain rfl : w = w' := hclient
      have hrest : ∀ timed ∈ rest, timed.2.isReading = true ∧
          ∀ id, timed.2.readId? = some id → ∀ mount serial,
            CertificateId.resolve w.mounts id = .ok (mount, serial) →
              isMount mount ∧ isPlace mount serial := by
        rw [show w.mounts = v.mounts from hkept]
        exact fun timed htimed => hsteps timed (by simp [htimed])
      obtain ⟨hanswers, hlast⟩ := ih (by rwa [show w.mounts = v.mounts from hkept]) hrest hstate
      exact ⟨congrArg (answer :: ·) hanswers, hlast⟩

end VaultClient
end CertCatalog
