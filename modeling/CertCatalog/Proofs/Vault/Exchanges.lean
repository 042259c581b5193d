import CertCatalog.Proofs.Action
import CertCatalog.Proofs.Vault.Calls
import CertCatalog.Vault.Remote

/-!
# Exchanges with a remote server

Every call of a remote server is one exchange, of a form that the call decides, and the outcome is
judged by the reply.
-/

namespace CertCatalog

open CertCatalog.Http (Network Reply isSuccess notFound)
open CertCatalog.Text

/-! ## Forms -/

/-- Whose token a request carries. -/
inductive Authority where
  | nobody
  | reader
  | writer (token : String)
  deriving DecidableEq, Repr

def Authority.token? (read : Secret) : Authority → Option Secret
  | .nobody => none
  | .reader => some read
  | .writer token => some ⟨token⟩

/-- All of a request but the base and the read token. -/
structure RequestForm where
  method : Http.Method
  segments : List String
  query : List (String × String)
  authority : Authority
  body : Option String
  deriving DecidableEq, Repr

def RequestForm.reading (segments : List String) (query : List (String × String)) : RequestForm :=
  { method := .get, segments := segments, query := query, authority := .reader, body := none }

open Remote in
def ServerCall.form : ServerCall → RequestForm
  | .listSerials mount => .reading (belowMount mount ["certs"]) [("list", "true")]
  | .listRevoked mount => .reading (belowMount mount ["certs", "revoked"]) [("list", "true")]
  | .readRecord mount serial => .reading (belowMount mount ["cert", serial]) []
  | .revoke mount serial token =>
      { method := .post
        segments := belowMount mount ["revoke"]
        query := []
        authority := .writer token
        body := some (revocationBody serial) }
  | .health =>
      { method := .get
        segments := ["sys", "health"]
        query := healthQuery
        authority := .nobody
        body := none }
  | .checkToken => .reading ["auth", "token", "lookup-self"] []
  | .readCrl mount => .reading (belowMount mount ["crl", "pem"]) []
  | .rotateCrl mount => .reading (belowMount mount ["crl", "rotate"]) []

/-! ## Exchanges -/

namespace Remote

variable {α : Type}

def requestAt (r : Remote) (form : RequestForm) (url : Url) : Http.Request :=
  { method := form.method
    url := url
    token := form.authority.token? r.token
    body := form.body }

def exchange (r : Remote) (form : RequestForm) : Action Network (Http.Reply × String) := do
  let url ← .answer (r.endpoint form.segments)
  let reply ← r.send (r.requestAt form url) form.query
  pure (reply, url.path.text)

theorem eq_exchange_of_get {r : Remote} {segments : List String} {query : List (String × String)}
    {next : Http.Reply × String → Action Network α} {read : Http.Reply × String → Outcome α}
    (hnext : ∀ found, next found = .answer (read found)) :
    r.get segments query >>= next =
      r.exchange (.reading segments query) >>= fun found => .answer (read found) :=
  congrArg (r.get segments query >>= ·) (funext hnext)

theorem eq_exchange_of_send {form : RequestForm} {r : Remote} {operation : Action Network α}
    {read : Http.Reply → String → Outcome α}
    (hoperation : operation = do
      let url ← .answer (r.endpoint form.segments)
      let reply ← r.send (r.requestAt form url) form.query
      .answer (read reply url.path.text)) :
    operation = r.exchange form >>= fun found => .answer (read found.1 found.2) := by
  rw [hoperation]
  funext net
  cases hurl : r.endpoint form.segments with
  | error e => simp only [exchange, hurl]; rfl
  | ok url =>
      simp only [exchange, hurl, Action.bind_apply, Action.answer]
      cases r.send (r.requestAt form url) form.query net with
      | mk outcome after => cases outcome <;> rfl

end Remote

/-! ## Calls and their answers -/

namespace ServerCall

abbrev Answer : ServerCall → Type
  | listSerials _ | listRevoked _ => List String
  | readRecord _ _ => Option String
  | health => Health
  | readCrl _ => String
  | revoke _ _ _ | checkToken | rotateCrl _ => Unit

def run (r : Remote) : (call : ServerCall) → Action Network call.Answer
  | listSerials mount => r.server.listSerials mount
  | listRevoked mount => r.server.listRevoked mount
  | readRecord mount serial => r.server.readRecord mount serial
  | revoke mount serial token => r.server.revoke mount serial token
  | health => r.server.health
  | checkToken => r.server.checkToken
  | readCrl mount => r.server.readCrl mount
  | rotateCrl mount => r.server.rotateCrl mount

/-- What it means that a place is not there: lists are empty, and a record is absent. -/
def missing? : (call : ServerCall) → Option call.Answer
  | listSerials _ | listRevoked _ => some ([] : List String)
  | readRecord _ _ => some (none : Option String)
  | _ => none

end ServerCall

/-! ## Judged replies -/

namespace Remote

def decodeBody {α : Type} (read : Json → Option α) (path : String) (body : Option Bytes) :
    Outcome α :=
  match (body.bind Json.ofBytes?).bind read with
  | some value => .ok value
  | none =>
      .error (.backend ("malformed vault response for " ++ path ++ ": " ++ Http.unreadableBody))

theorem readBody_eq {α : Type} (read : Json → Option α) (reply : Reply) (path : String) :
    readBody read reply path =
      if isSuccess reply.status then decodeBody read path reply.body
      else .error (failureOf reply path) := by
  unfold readBody checkStatus decodeBody
  split
  · cases (reply.body.bind Json.ofBytes?).bind read <;> rfl
  · rfl

theorem checkStatus_eq (reply : Reply) (path : String) :
    checkStatus reply path =
      if isSuccess reply.status then .ok () else .error (failureOf reply path) := rfl

end Remote

namespace ServerCall

open CertCatalog.Remote (decodeBody failureOf)

def decodeRecord (path : String) (body : Option Bytes) : Outcome (Option String) := do
  let text ← decodeBody (Remote.data? Remote.certificate?) path body
  pure (if isAllBlank text then none else some text)

def decode (path : String) : (call : ServerCall) → Option Bytes → Outcome call.Answer
  | listSerials _ | listRevoked _ => decodeBody (Remote.data? Remote.keys?) path
  | readRecord _ _ => decodeRecord path
  | health => decodeBody Remote.health? path
  | readCrl mount => fun body =>
      match body with
      | some bytes => .ok (Bytes.lossyText bytes)
      | none =>
          .error (.backend ("failed to read CRL for " ++ mount ++ ": " ++ Http.unreadableBody))
  | revoke _ _ _ | checkToken | rotateCrl _ => fun _ => .ok ()

def judge (call : ServerCall) (reply : Reply) (path : String) : Outcome call.Answer :=
  match if reply.status == notFound then call.missing? else none with
  | some value => .ok value
  | none =>
      if isSuccess reply.status then call.decode path reply.body else .error (failureOf reply path)

theorem judge_of_not_missing {call : ServerCall} (hmissing : call.missing? = none) (reply : Reply)
    (path : String) :
    call.judge reply path =
      if isSuccess reply.status then call.decode path reply.body
      else .error (failureOf reply path) := by
  simp only [judge, hmissing, ite_self]

/-! ## The operations as exchanges -/

variable (r : Remote)

theorem listKeys_eq (segments : List String) :
    r.listKeys segments = r.exchange (.reading segments [("list", "true")]) >>= fun found =>
      .answer (if found.1.status == notFound then .ok []
        else Remote.readBody (Remote.data? Remote.keys?) found.1 found.2) := by
  refine Remote.eq_exchange_of_get fun (reply, path) => ?_
  dsimp only
  split <;> rfl

theorem readRecord_eq (mount serial : String) :
    r.readRecord mount serial = r.exchange (readRecord mount serial).form >>= fun found =>
      .answer (if found.1.status == notFound then .ok none
        else if isSuccess found.1.status then decodeRecord found.2 found.1.body
        else .error (failureOf found.1 found.2)) := by
  refine Remote.eq_exchange_of_get fun (reply, path) => ?_
  simp only [Remote.readBody_eq, decodeRecord]
  split
  · rfl
  · split
    · cases decodeBody (Remote.data? Remote.certificate?) path reply.body <;> rfl
    · rfl

theorem readCrl_eq (mount : String) :
    r.readCrl mount = r.exchange (readCrl mount).form >>= fun found =>
      .answer (if isSuccess found.1.status then (readCrl mount).decode found.2 found.1.body
        else .error (failureOf found.1 found.2)) := by
  refine Remote.eq_exchange_of_get fun (reply, path) => ?_
  simp only [Remote.checkStatus_eq, decode]
  split
  · cases reply.body <;> rfl
  · rfl

theorem health_eq :
    r.health = r.exchange health.form >>= fun found =>
      .answer (Remote.readBody Remote.health? found.1 found.2) :=
  Remote.eq_exchange_of_send rfl

theorem revoke_eq (mount serial token : String) :
    r.revoke mount serial token = r.exchange (revoke mount serial token).form >>= fun found =>
      .answer (Remote.checkStatus found.1 found.2) :=
  Remote.eq_exchange_of_send rfl

theorem checkToken_eq :
    r.checkToken = r.exchange checkToken.form >>= fun found =>
      .answer (Remote.checkStatus found.1 found.2) :=
  Remote.eq_exchange_of_get fun _ => rfl

theorem rotateCrl_eq (mount : String) :
    r.rotateCrl mount = r.exchange (rotateCrl mount).form >>= fun found =>
      .answer (Remote.checkStatus found.1 found.2) :=
  Remote.eq_exchange_of_get fun _ => rfl

variable {r}

theorem run_eq_of_judge {call : ServerCall} {read : Reply × String → Outcome call.Answer}
    (hrun : call.run r = r.exchange call.form >>= fun found => .answer (read found))
    (hread : ∀ found, read found = call.judge found.1 found.2) :
    call.run r = r.exchange call.form >>= fun found => .answer (call.judge found.1 found.2) := by
  rw [hrun]
  exact congrArg (r.exchange call.form >>= ·)
    (funext fun found => congrArg Action.answer (hread found))

/-- The outcome of a call is judged by the reply to its request. -/
theorem run_eq (r : Remote) (call : ServerCall) :
    call.run r = r.exchange call.form >>= fun found => .answer (call.judge found.1 found.2) := by
  cases call with
  | listSerials mount | listRevoked mount =>
      refine run_eq_of_judge (listKeys_eq r _) fun (reply, path) => ?_
      simp only [Remote.readBody_eq, judge, missing?, decode]
      split <;> rfl
  | readRecord mount serial =>
      refine run_eq_of_judge (readRecord_eq r mount serial) fun (reply, path) => ?_
      simp only [judge, missing?, decode]
      split <;> rfl
  | health =>
      refine run_eq_of_judge (health_eq r) fun (reply, path) => ?_
      rw [Remote.readBody_eq, judge_of_not_missing rfl, decode]
  | readCrl mount =>
      refine run_eq_of_judge (readCrl_eq r mount) fun (reply, path) => ?_
      rw [judge_of_not_missing rfl]
  | revoke mount serial token =>
      refine run_eq_of_judge (revoke_eq r mount serial token) fun (reply, path) => ?_
      rw [Remote.checkStatus_eq, judge_of_not_missing rfl, decode]
  | checkToken =>
      refine run_eq_of_judge (checkToken_eq r) fun (reply, path) => ?_
      rw [Remote.checkStatus_eq, judge_of_not_missing rfl, decode]
  | rotateCrl mount =>
      refine run_eq_of_judge (rotateCrl_eq r mount) fun (reply, path) => ?_
      rw [Remote.checkStatus_eq, judge_of_not_missing rfl, decode]

theorem run_after (r : Remote) (call : ServerCall) (net : Network) :
    (call.run r net).2 = (r.exchange call.form net).2 := by
  rw [run_eq, Action.bind_answer_apply]

end ServerCall
end CertCatalog
