import CertCatalog.Proofs.Http.Agreement
import CertCatalog.Proofs.Json.ReadBack
import CertCatalog.Proofs.Vault.CallHistory
import CertCatalog.Proofs.Vault.Exchanges
import CertCatalog.Proofs.Vault.RequestPaths

/-!
# Requests of a remote server

Every call of a remote server is one exchange, so the requests that arrive are those of the calls,
in their order.  Which of two legal read tokens they carry makes no difference to the replies.
-/

namespace CertCatalog

open CertCatalog.Http (Network Received)

namespace Remote

/-! ## What arrives -/

/-- Whether a request of a form is sent to a URL, wherever the network reaches. -/
def isSent (r : Remote) (form : RequestForm) (url : Url) : Bool :=
  Http.isPlainHttp url && Http.Request.isShort (Http.fullUrl url form.query) &&
    (form.authority.token? r.token).all Http.Request.isLegalToken

def arriving? (r : Remote) (form : RequestForm) : Option Received :=
  match r.endpoint form.segments with
  | .ok url =>
      if r.isSent form url then
        some (Http.sent (r.requestAt form url) form.query)
      else none
  | .error _ => none

def outcomeAt (url : Url) : Except Http.Failure Http.Reply → Outcome Http.Reply
  | .ok reply => .ok reply
  | .error e => .error (.connection ("request to " ++ url.text ++ " failed: " ++ e.message))

theorem send_eq (r : Remote) (request : Http.Request) (query : List (String × String))
    (net : Network) :
    r.send request query net =
      (outcomeAt request.url (net.send request query r.timeout).1,
        (net.send request query r.timeout).2) := by
  unfold send
  split
  · next hrun => rw [hrun]; rfl
  · next hrun => rw [hrun]; rfl

theorem exchange_eq {r : Remote} {form : RequestForm} {url : Url}
    (hurl : r.endpoint form.segments = .ok url) (net : Network) :
    r.exchange form net =
      ((outcomeAt url (net.send (r.requestAt form url) form.query r.timeout).1).map
        fun reply => (reply, url.path.text),
        (net.send (r.requestAt form url) form.query r.timeout).2) := by
  have hplace : (r.requestAt form url).url = url := rfl
  simp only [exchange, hurl, Action.bind_apply, Action.answer, send_eq, hplace]
  cases outcomeAt url (net.send (r.requestAt form url) form.query r.timeout).1 <;> rfl

theorem exchange_of_ok {r : Remote} {form : RequestForm} {url : Url}
    (hurl : r.endpoint form.segments = .ok url) (net : Network) :
    (r.exchange form net).2 = (net.send (r.requestAt form url) form.query r.timeout).2 := by
  rw [exchange_eq hurl]

theorem exchange_of_error {r : Remote} {form : RequestForm} {e : CatalogError}
    (hurl : r.endpoint form.segments = .error e) (net : Network) :
    r.exchange form net = (.error e, net) := by
  simp only [exchange, hurl]
  rfl

theorem exchange_isReachable (r : Remote) (form : RequestForm) (net : Network) :
    (r.exchange form net).2.isReachable = net.isReachable := by
  cases hurl : r.endpoint form.segments with
  | error e => rw [exchange_of_error hurl]
  | ok url => rw [exchange_of_ok hurl, Network.send_isReachable]

theorem exchange_isDirect (r : Remote) (form : RequestForm) {net : Network} (h : net.IsDirect) :
    (r.exchange form net).2.IsDirect := by
  cases hurl : r.endpoint form.segments with
  | error e => rwa [exchange_of_error hurl]
  | ok url => rw [exchange_of_ok hurl]; exact h.send _ _ _

theorem keeps_isDirect_run (r : Remote) (call : ServerCall) :
    Action.Keeps Network.IsDirect (call.run r) := by
  intro net h
  rw [call.run_after]
  exact r.exchange_isDirect call.form h

theorem keeps_isDirect (r : Remote) : r.server.Keeps Network.IsDirect where
  listSerials mount := r.keeps_isDirect_run (.listSerials mount)
  listRevoked mount := r.keeps_isDirect_run (.listRevoked mount)
  readRecord mount serial := r.keeps_isDirect_run (.readRecord mount serial)
  revoke mount serial token := r.keeps_isDirect_run (.revoke mount serial token)
  health := r.keeps_isDirect_run .health
  checkToken := r.keeps_isDirect_run .checkToken
  readCrl mount := r.keeps_isDirect_run (.readCrl mount)
  rotateCrl mount := r.keeps_isDirect_run (.rotateCrl mount)

open CertCatalog.Http.Network (IsTrailOf IsSentOn)

theorem exists_exchange_received (r : Remote) (form : RequestForm) (net : Network) :
    ∃ trail, (r.exchange form net).2.received = net.received ++ trail ∧
      IsTrailOf net.IsDirect (if net.isReachable then r.arriving? form else none) trail := by
  cases hurl : r.endpoint form.segments with
  | error e =>
      refine ⟨[], ?_, ?_⟩
      · rw [exchange_of_error hurl, List.append_nil]
      · rw [arriving?, hurl, ite_self]
        rfl
  | ok url =>
      have htakes : net.Takes (r.requestAt form url) form.query =
          (r.isSent form url && net.isReachable) := rfl
      obtain ⟨trail, hreceived, htrail⟩ :=
        Network.exists_received_send net (r.requestAt form url) form.query r.timeout
      refine ⟨trail, ?_, ?_⟩
      · rw [exchange_of_ok hurl, hreceived]
      · rw [htakes] at htrail
        rw [arriving?, hurl]
        dsimp only
        generalize r.isSent form url = isSent at htrail ⊢
        cases isSent <;> cases hreach : net.isReachable <;> simpa [hreach] using htrail

/-- All requests of the calls of a log have arrived since the start, with those they led to. -/
structure Arrived (r : Remote) (start : Network) (log : List ServerCall) (net : Network) :
    Prop where
  isReachable : net.isReachable = start.isReachable
  isDirect : start.IsDirect → net.IsDirect
  received : ∃ trails : List (List Received), net.received = start.received ++ trails.flatten ∧
    List.Forall₂ (fun call : ServerCall => IsTrailOf start.IsDirect
      (if start.isReachable then r.arriving? call.form else none)) log trails

theorem arrived_start (r : Remote) (net : Network) : r.Arrived net [] net where
  isReachable := rfl
  isDirect h := h
  received := ⟨[], (List.append_nil _).symm, .nil⟩

theorem keeps_arrived_run (r : Remote) (start : Network) (call : ServerCall) :
    Action.Keeps (fun x => r.Arrived start x.2 x.1) (.logging call (call.run r)) := by
  rintro ⟨net, log⟩ ⟨hreachable, hdirect, trails, hreceived, htrails⟩
  dsimp only at hreachable hdirect hreceived htrails
  obtain ⟨trail, hnew, htrail⟩ := r.exists_exchange_received call.form net
  have htrail : IsTrailOf start.IsDirect
      (if start.isReachable then r.arriving? call.form else none) trail := by
    rw [← hreachable]
    exact htrail.imp hdirect
  constructor
  · simp only [Action.logging, call.run_after, exchange_isReachable, hreachable]
  · intro hstart
    simp only [Action.logging, call.run_after]
    exact r.exchange_isDirect call.form (hdirect hstart)
  · refine ⟨trails ++ [trail], ?_, List.rel_append htrails (.cons htrail .nil)⟩
    simp only [Action.logging, call.run_after, hnew, hreceived, List.flatten_append,
      List.flatten_singleton, List.append_assoc]

theorem keeps_arrived (r : Remote) (start : Network) :
    r.server.recorded.Keeps fun x => r.Arrived start x.2 x.1 where
  listSerials mount := r.keeps_arrived_run start (.listSerials mount)
  listRevoked mount := r.keeps_arrived_run start (.listRevoked mount)
  readRecord mount serial := r.keeps_arrived_run start (.readRecord mount serial)
  revoke mount serial token := r.keeps_arrived_run start (.revoke mount serial token)
  health := r.keeps_arrived_run start .health
  checkToken := r.keeps_arrived_run start .checkToken
  readCrl mount := r.keeps_arrived_run start (.readCrl mount)
  rotateCrl mount := r.keeps_arrived_run start (.rotateCrl mount)

theorem arrived_takeAll (r : Remote) (v : VaultClient) (net : Network) (steps : List ServerStep) :
    r.Arrived net (VaultClient.callsOf r.server steps (v, net)).flatten
      (VaultClient.takeAll r.server (v, net) steps).2 :=
  VaultClient.takeAll_of_keeps (r.keeps_arrived net) v (r.arrived_start net) steps

theorem Arrived.received_eq {r : Remote} {start net : Network} {log : List ServerCall}
    (h : r.Arrived start log net) (hdirect : start.IsDirect) :
    net.received = start.received ++
      if start.isReachable then log.filterMap (fun call => r.arriving? call.form) else [] := by
  obtain ⟨trails, hreceived, htrails⟩ := h.received
  rw [hreceived, List.append_cancel_left_eq]
  clear hreceived h
  induction htrails with
  | nil => rw [List.filterMap_nil, ite_self, List.flatten_nil]
  | @cons call trail log trails htrail _ ih =>
      rw [List.flatten_cons, ih, htrail.eq_toList hdirect]
      cases start.isReachable with
      | false => rfl
      | true => cases hrequest : r.arriving? call.form <;> simp [hrequest]

/-! ## Two read tokens -/

structure SamePlace (r other : Remote) : Prop where
  base : r.base = other.base
  timeout : r.timeout = other.timeout
  legal : Http.Request.isLegalToken r.token = true
  otherLegal : Http.Request.isLegalToken other.token = true

variable {r other : Remote}

theorem samePlace_of_ofAddress {address : String} {token otherToken : Secret} {trust : TrustOptions}
    {timeout : Nat} (hr : ofAddress address token trust timeout = .ok r)
    (hother : ofAddress address otherToken trust timeout = .ok other)
    (htoken : Http.Request.isLegalToken token = true)
    (hotherToken : Http.Request.isLegalToken otherToken = true) : SamePlace r other := by
  obtain ⟨hparse, -, hsame⟩ := ofAddress_eq_ok hr
  obtain ⟨hparseOther, -, hsameOther⟩ := ofAddress_eq_ok hother
  exact
    { base := Except.ok.inj (hparse.symm.trans hparseOther)
      timeout := (congrArg Remote.timeout hsame).trans (congrArg Remote.timeout hsameOther).symm
      legal := token_of_ofAddress hr ▸ htoken
      otherLegal := token_of_ofAddress hother ▸ hotherToken }

theorem SamePlace.endpoint_eq (h : SamePlace r other) (segments : List String) :
    r.endpoint segments = other.endpoint segments := by
  simp only [endpoint, h.base]

theorem SamePlace.isLegal_eq (h : SamePlace r other) (authority : Authority) :
    (authority.token? r.token).all Http.Request.isLegalToken =
      (authority.token? other.token).all Http.Request.isLegalToken := by
  cases authority with
  | reader => exact h.legal.trans h.otherLegal.symm
  | _ => rfl

theorem SamePlace.isSent_eq (h : SamePlace r other) (form : RequestForm) (url : Url) :
    r.isSent form url = other.isSent form url := by
  rw [isSent, isSent, h.isLegal_eq]

theorem SamePlace.arriving?_eq (h : SamePlace r other) {form : RequestForm}
    (hauthority : form.authority ≠ .reader) : r.arriving? form = other.arriving? form := by
  have htoken : form.authority.token? r.token = form.authority.token? other.token := by
    cases hcase : form.authority with
    | reader => exact absurd hcase hauthority
    | _ => rfl
  simp only [arriving?, requestAt, h.endpoint_eq, h.isSent_eq, htoken]

theorem SamePlace.map_arriving? (h : SamePlace r other) (form : RequestForm) :
    (r.arriving? form).map (fun request => { request with token := none }) =
      (other.arriving? form).map fun request => { request with token := none } := by
  simp only [arriving?, h.endpoint_eq, h.isSent_eq]
  cases other.endpoint form.segments with
  | error e => rfl
  | ok url =>
      dsimp only
      split <;> rfl

theorem SamePlace.agree_exchange (h : SamePlace r other) {form : RequestForm}
    (hget : form.method = .get) :
    Action.Agree Network.SameReads (r.exchange form) (other.exchange form) := by
  unfold exchange
  rw [h.endpoint_eq]
  refine Action.Agree.answer_bind fun url _ => Action.Agree.bind ?_ fun reply _ => .answer _
  intro net like hreads
  have hget : (r.requestAt form url).method = .get := hget
  have htoken : (r.requestAt form url).token.all Http.Request.isLegalToken =
      (other.requestAt form url).token.all Http.Request.isLegalToken := h.isLegal_eq form.authority
  have hmethod : (r.requestAt form url).method = (other.requestAt form url).method := rfl
  obtain ⟨hreply, hafter⟩ := hreads.send hget hmethod rfl htoken form.query r.timeout
  rw [send_eq, send_eq, ← h.timeout]
  exact ⟨congrArg (outcomeAt url) hreply, hafter⟩

theorem agree_run (call : ServerCall) {related : Network → Network → Prop}
    (h : Action.Agree related (r.exchange call.form) (other.exchange call.form)) :
    Action.Agree related (call.run r) (call.run other) := by
  rw [call.run_eq, call.run_eq]
  exact h.bind fun found _ => .answer _

theorem SamePlace.actsAlike (h : SamePlace r other) :
    Server.ActsAlike Network.SameReads r.server other.server where
  listSerials mount := agree_run (.listSerials mount) (h.agree_exchange rfl)
  listRevoked mount := agree_run (.listRevoked mount) (h.agree_exchange rfl)
  readRecord mount serial := agree_run (.readRecord mount serial) (h.agree_exchange rfl)
  health := agree_run .health (h.agree_exchange rfl)
  checkToken := agree_run .checkToken (h.agree_exchange rfl)
  readCrl mount := agree_run (.readCrl mount) (h.agree_exchange rfl)
  rotateCrl mount := agree_run (.rotateCrl mount) (h.agree_exchange rfl)

theorem sameReads_revoke (r : Remote) (mount serial token : String) {net : Network}
    (h : net.IsDirect) : Network.SameReads net (r.revoke mount serial token net).2 := by
  have hafter : (r.revoke mount serial token net).2 = _ :=
    (ServerCall.revoke mount serial token).run_after r net
  rw [hafter]
  cases hurl : r.endpoint (ServerCall.revoke mount serial token).form.segments with
  | error e => rw [exchange_of_error hurl]; exact .refl h
  | ok url =>
      have hpost : (r.requestAt (ServerCall.revoke mount serial token).form url).method = .post :=
        rfl
      rw [exchange_of_ok hurl]
      exact Network.sameReads_send (by rw [hpost]; decide) h _ _

theorem hidesRevocations (r other : Remote) :
    VaultClient.HidesRevocations Network.SameReads r.server other.server where
  left _ mount serial token _ hreads :=
    (sameReads_revoke r mount serial token hreads.isDirect).symm.trans hreads
  right _ mount serial token _ hreads :=
    hreads.trans (sameReads_revoke other mount serial token hreads.otherDirect)

end Remote
end CertCatalog
