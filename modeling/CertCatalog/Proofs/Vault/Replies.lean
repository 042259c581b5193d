import CertCatalog.Proofs.Json.Records
import CertCatalog.Proofs.Vault.LongRequests

/-!
# What becomes of replies

Every operation of a remote server sends one request, unless its URL is too long, and the reply to it
decides on the outcome: a value that was asked for, or a failure of the connection, of the token or
of the backend.
-/

namespace CertCatalog

open CertCatalog.Text CertCatalog.Http

/-! ## Bodies -/

namespace Remote

/-- The whole body spells a JSON value; strings in it that are skipped over need not be texts. -/
def HoldsJson (body : Option Bytes) (json : Json) : Prop :=
  ∃ bytes, body = some bytes ∧ Json.ofBytes? bytes = some json

def IsKeys (json : Json) (keys : List String) : Prop :=
  ∃ data, json.HasField "data" (some data) ∧
    (data.HasField "keys" (some (.strings keys)) ∨ data.HasField "keys" none ∧ keys = [])

def IsCertificate (json : Json) (text : String) : Prop :=
  ∃ data, json.HasField "data" (some data) ∧
    (data.HasField "certificate" (some (.str text)) ∨ data.HasField "certificate" none ∧ text = "")

/-- Both flags, as fields of an object or as the items of an array. -/
def IsHealth (json : Json) (health : Health) : Prop :=
  (∃ fields, json = .object fields ∧
      json.HasField "initialized" (some (.bool health.initialized)) ∧
      json.HasField "sealed" (some (.bool health.sealed))) ∨
    json = .array [.bool health.initialized, .bool health.sealed]

def ListsErrors (body : Option Bytes) (errors : List String) : Prop :=
  ∃ json, HoldsJson body json ∧ json.HasField "errors" (some (.strings errors))

/-- The status of a failure, followed by the errors of its body if there are any. -/
def IsDetail (reply : Reply) (detail : String) : Prop :=
  (∃ errors, errors ≠ [] ∧ ListsErrors reply.body errors ∧
      detail = statusText reply.status ++ ": " ++ joinWith "; " errors) ∨
    (∀ errors, errors ≠ [] → ¬ListsErrors reply.body errors) ∧ detail = statusText reply.status

end Remote

/-! ## Calls -/

namespace ServerCall

/-- What the body of a success says; a call that asks for nothing does not look at it. -/
def Reads : (call : ServerCall) → Option Bytes → call.Answer → Prop
  | listSerials _, body, keys | listRevoked _, body, keys =>
      ∃ json, Remote.HoldsJson body json ∧ Remote.IsKeys json keys
  | readRecord _ _, body, record =>
      ∃ json text, Remote.HoldsJson body json ∧ Remote.IsCertificate json text ∧
        record = if isAllBlank text then none else some text
  | health, body, state => ∃ json, Remote.HoldsJson body json ∧ Remote.IsHealth json state
  | readCrl _, body, crl => ∃ bytes, body = some bytes ∧ crl = Bytes.lossyText bytes
  | revoke _ _ _, _, _ | checkToken, _, _ | rotateCrl _, _, _ => True

/-- The outcome of a call at a URL whose request is answered in this way, or not at all. -/
structure IsOutcome (call : ServerCall) (url : Url) (answer : Option Reply)
    (outcome : Outcome call.Answer) : Prop where
  unanswered : answer = none → ∃ reason,
    outcome = .error (.connection ("request to " ++ url.text ++ " failed: " ++ reason))
  refused : ∀ reply, answer = some reply → (reply.status = 401 ∨ reply.status = 403) →
    ∃ detail, Remote.IsDetail reply detail ∧
      outcome = .error (.authentication (detail ++ " (" ++ url.path.text ++ ")"))
  missing : ∀ reply, answer = some reply → reply.status = 404 →
    ∀ value, call.missing? = some value → outcome = .ok value
  failed : ∀ reply, answer = some reply → ¬(200 ≤ reply.status ∧ reply.status < 300) →
    reply.status ≠ 401 → reply.status ≠ 403 → (reply.status = 404 → call.missing? = none) →
    ∃ detail, Remote.IsDetail reply detail ∧
      outcome = .error (.backend ("vault returned " ++ detail ++ " for " ++ url.path.text))
  read : ∀ reply, answer = some reply → 200 ≤ reply.status → reply.status < 300 →
    ∀ value, call.Reads reply.body value → outcome = .ok value
  unreadable : ∀ reply, answer = some reply → 200 ≤ reply.status → reply.status < 300 →
    (∀ value, ¬call.Reads reply.body value) → ∃ message, outcome = .error (.backend message)

end ServerCall

/-! ## Reading bodies -/

namespace Remote

theorem parsed_eq_some_iff {α : Type} {body : Option Bytes} {read : Json → Option α} {value : α} :
    (body.bind Json.ofBytes?).bind read = some value ↔
      ∃ json, HoldsJson body json ∧ read json = some value := by
  simp only [Option.bind_eq_some_iff, HoldsJson]

theorem bind_record?_eq_some_iff {α : Type} {name : String} {read : Option Json → Option α}
    {next : List (Option Json) → Option α} (hnext : ∀ field, next [field] = read field)
    {json : Json} {value : α} :
    (json.record? [name]).bind next = some value ↔
      ∃ field, json.HasField name field ∧ read field = some value := by
  simp only [Option.bind_eq_some_iff, Json.record?_singleton_eq_some_iff]
  constructor
  · rintro ⟨_, ⟨field, rfl, hfield⟩, hvalue⟩
    exact ⟨field, hfield, hnext field ▸ hvalue⟩
  · rintro ⟨field, hfield, hvalue⟩
    exact ⟨_, ⟨field, rfl, hfield⟩, (hnext field).trans hvalue⟩

theorem data?_eq_some_iff {α : Type} {read : Json → Option α} {json : Json} {value : α} :
    data? read json = some value ↔
      ∃ data, json.HasField "data" (some data) ∧ read data = some value := by
  refine (bind_record?_eq_some_iff fun _ => rfl).trans ?_
  constructor
  · rintro ⟨field, hfield, hvalue⟩
    obtain ⟨data, rfl, hdata⟩ := Option.bind_eq_some_iff.mp hvalue
    exact ⟨data, hfield, hdata⟩
  · rintro ⟨data, hfield, hdata⟩
    exact ⟨some data, hfield, hdata⟩

theorem orElse?_field_iff {α : Type} {name : String} {usual value : α} {read : Json → Option α}
    {json : Json} :
    (∃ field, json.HasField name field ∧ Json.orElse? usual read field = some value) ↔
      (∃ given, json.HasField name (some given) ∧ read given = some value) ∨
        json.HasField name none ∧ value = usual := by
  constructor
  · rintro ⟨field, hfield, hvalue⟩
    cases field with
    | none => exact .inr ⟨hfield, (Option.some.inj hvalue).symm⟩
    | some given => exact .inl ⟨given, hfield, hvalue⟩
  · rintro (⟨given, hfield, hvalue⟩ | ⟨hfield, rfl⟩)
    · exact ⟨some given, hfield, hvalue⟩
    · exact ⟨none, hfield, rfl⟩

theorem keys?_eq_some_iff {json : Json} {keys : List String} :
    keys? json = some keys ↔
      json.HasField "keys" (some (.strings keys)) ∨ json.HasField "keys" none ∧ keys = [] := by
  refine (bind_record?_eq_some_iff fun _ => rfl).trans (orElse?_field_iff.trans ?_)
  simp only [Json.list?_text?_eq_some_iff, exists_eq_right]

theorem certificate?_eq_some_iff {json : Json} {text : String} :
    certificate? json = some text ↔
      json.HasField "certificate" (some (.str text)) ∨
        json.HasField "certificate" none ∧ text = "" := by
  refine (bind_record?_eq_some_iff fun _ => rfl).trans (orElse?_field_iff.trans ?_)
  simp only [Json.text?_eq_some_iff, exists_eq_right]

theorem data?_keys?_eq_some_iff {json : Json} {keys : List String} :
    data? keys? json = some keys ↔ IsKeys json keys := by
  simp only [data?_eq_some_iff, keys?_eq_some_iff, IsKeys]

theorem data?_certificate?_eq_some_iff {json : Json} {text : String} :
    data? certificate? json = some text ↔ IsCertificate json text := by
  simp only [data?_eq_some_iff, certificate?_eq_some_iff, IsCertificate]

theorem health?_object_eq_some_iff {fields : List (Option String × Json)} {state : Health} :
    health? (.object fields) = some state ↔
      (Json.object fields).HasField "initialized" (some (.bool state.initialized)) ∧
        (Json.object fields).HasField "sealed" (some (.bool state.sealed)) := by
  simp only [health?, bind, Option.bind_eq_some_iff, Json.record?_object_eq_some_iff,
    List.forall₂_cons_left_iff, List.forall₂_nil_left_iff]
  constructor
  · rintro ⟨_, ⟨-, field, _, hinitialized, ⟨other, _, hsealed, rfl, rfl⟩, rfl⟩, hstate⟩
    obtain ⟨first, hfirst, second, hsecond, hstate⟩ :
        ∃ first, Json.required? Json.bool? field = some first ∧
          ∃ second, Json.required? Json.bool? other = some second ∧
            some (Health.mk first second) = some state := by
      simpa [Option.bind_eq_some_iff] using hstate
    cases hstate
    obtain ⟨value, rfl, hvalue⟩ := Option.bind_eq_some_iff.mp hfirst
    obtain ⟨next, rfl, hnext⟩ := Option.bind_eq_some_iff.mp hsecond
    rw [Json.bool?_eq_some_iff] at hvalue hnext
    exact ⟨hvalue ▸ hinitialized, hnext ▸ hsealed⟩
  · rintro ⟨hinitialized, hsealed⟩
    exact ⟨_, ⟨(Json.hasField_object_iff.mp hsealed).1, _, _, hinitialized,
      ⟨_, _, hsealed, rfl, rfl⟩, rfl⟩, rfl⟩

theorem health?_array_eq_some_iff {items : List Json} {state : Health} :
    health? (.array items) = some state ↔
      items = [.bool state.initialized, .bool state.sealed] := by
  rcases items with _ | ⟨first, _ | ⟨second, _ | ⟨third, rest⟩⟩⟩
  · simp [health?, Json.record?, Json.required?]
  · cases hfirst : Json.bool? first <;> simp [health?, Json.record?, Json.required?, hfirst]
  · obtain ⟨initialized, isSealed⟩ := state
    have hread : health? (.array [first, second]) = some ⟨initialized, isSealed⟩ ↔
        Json.bool? first = some initialized ∧ Json.bool? second = some isSealed := by
      cases hfirst : Json.bool? first <;> cases hsecond : Json.bool? second <;>
        simp [health?, Json.record?, Json.required?, hfirst, hsecond]
    simp [hread, Json.bool?_eq_some_iff]
  · simp [health?, Json.record?]

theorem health?_eq_some_iff {json : Json} {state : Health} :
    health? json = some state ↔ IsHealth json state := by
  cases json with
  | object fields => simp [health?_object_eq_some_iff, IsHealth]
  | array items => simp [health?_array_eq_some_iff, IsHealth]
  | _ => simp [health?, Json.record?, IsHealth]

/-! ## The errors of a body -/

def errors? (json : Json) : Option (List String) :=
  (json.record? ["errors"]).bind fun
    | [errors] => Json.orElse? [] (Json.list? Json.text?) errors
    | _ => none

theorem listedErrors_eq (body : Option Bytes) :
    listedErrors body = ((body.bind Json.ofBytes?).bind errors?).getD [] := rfl

theorem errors?_eq_some_iff {json : Json} {errors : List String} (hne : errors ≠ []) :
    errors? json = some errors ↔ json.HasField "errors" (some (.strings errors)) := by
  refine (bind_record?_eq_some_iff fun _ => rfl).trans (orElse?_field_iff.trans ?_)
  simp only [Json.list?_text?_eq_some_iff, exists_eq_right, hne, and_false, or_false]

theorem listedErrors_eq_iff {body : Option Bytes} {errors : List String} (hne : errors ≠ []) :
    listedErrors body = errors ↔ ListsErrors body errors := by
  have hread : listedErrors body = errors ↔
      (body.bind Json.ofBytes?).bind errors? = some errors := by
    rw [listedErrors_eq]
    cases (body.bind Json.ofBytes?).bind errors? with
    | none => simp [hne.symm]
    | some found => simp
  rw [hread, parsed_eq_some_iff]
  simp only [errors?_eq_some_iff hne, ListsErrors]

theorem isDetail_failureDetail (reply : Reply) : IsDetail reply (failureDetail reply) := by
  unfold failureDetail
  split
  · next hnone =>
      refine .inr ⟨fun errors hne hlists => hne ?_, rfl⟩
      rw [← (listedErrors_eq_iff hne).mpr hlists, hnone]
  · next hsome => exact .inl ⟨_, hsome, (listedErrors_eq_iff hsome).mp rfl, rfl⟩

/-! ## From bodies to values -/

theorem decodeBody_of_read {α : Type} {read : Json → Option α} {body : Option Bytes} {json : Json}
    {value : α} (hjson : HoldsJson body json) (hread : read json = some value) (path : String) :
    decodeBody read path body = .ok value := by
  rw [decodeBody, parsed_eq_some_iff.mpr ⟨json, hjson, hread⟩]

theorem decodeBody_of_unreadable {α : Type} {read : Json → Option α} {body : Option Bytes}
    (hnot : ∀ json value, HoldsJson body json → read json ≠ some value) (path : String) :
    ∃ message, decodeBody read path body = .error (.backend message) := by
  unfold decodeBody
  split
  · next value hvalue =>
      obtain ⟨json, hjson, hread⟩ := parsed_eq_some_iff.mp hvalue
      exact absurd hread (hnot json value hjson)
  · exact ⟨_, rfl⟩

end Remote

namespace ServerCall

open CertCatalog.Remote (decodeBody failureOf)

theorem decode_of_reads {call : ServerCall} {body : Option Bytes} {value : call.Answer}
    (hreads : call.Reads body value) (path : String) : call.decode path body = .ok value := by
  cases call with
  | listSerials mount | listRevoked mount =>
      obtain ⟨json, hjson, hkeys⟩ := hreads
      exact Remote.decodeBody_of_read hjson (Remote.data?_keys?_eq_some_iff.mpr hkeys) path
  | readRecord mount serial =>
      obtain ⟨json, text, hjson, htext, rfl⟩ := hreads
      have hdecoded := Remote.decodeBody_of_read hjson
        (Remote.data?_certificate?_eq_some_iff.mpr htext) path
      rw [decode, decodeRecord, hdecoded]
      rfl
  | health =>
      obtain ⟨json, hjson, hhealth⟩ := hreads
      exact Remote.decodeBody_of_read hjson (Remote.health?_eq_some_iff.mpr hhealth) path
  | readCrl mount =>
      obtain ⟨bytes, rfl, rfl⟩ := hreads
      rfl
  | revoke mount serial token => rfl
  | checkToken => rfl
  | rotateCrl mount => rfl

theorem decode_of_unreadable {call : ServerCall} {body : Option Bytes}
    (hnot : ∀ value, ¬call.Reads body value) (path : String) :
    ∃ message, call.decode path body = .error (.backend message) := by
  cases call with
  | listSerials mount | listRevoked mount =>
      refine Remote.decodeBody_of_unreadable (fun json keys hjson hread => ?_) path
      exact hnot keys ⟨json, hjson, Remote.data?_keys?_eq_some_iff.mp hread⟩
  | readRecord mount serial =>
      obtain ⟨message, hmessage⟩ : ∃ message,
          decodeBody (Remote.data? Remote.certificate?) path body = .error (.backend message) := by
        refine Remote.decodeBody_of_unreadable (fun json text hjson hread => ?_) path
        exact hnot _ ⟨json, text, hjson, Remote.data?_certificate?_eq_some_iff.mp hread, rfl⟩
      refine ⟨message, ?_⟩
      rw [decode, decodeRecord, hmessage]
      rfl
  | health =>
      refine Remote.decodeBody_of_unreadable (fun json state hjson hread => ?_) path
      exact hnot state ⟨json, hjson, Remote.health?_eq_some_iff.mp hread⟩
  | readCrl mount =>
      cases body with
      | some bytes => exact absurd ⟨bytes, rfl, rfl⟩ (hnot (Bytes.lossyText bytes))
      | none => exact ⟨_, rfl⟩
  | revoke mount serial token => exact absurd trivial (hnot ())
  | checkToken => exact absurd trivial (hnot ())
  | rotateCrl mount => exact absurd trivial (hnot ())

/-! ## Outcomes -/

theorem judge_of_success (call : ServerCall) {reply : Reply} (hlow : 200 ≤ reply.status)
    (hhigh : reply.status < 300) (path : String) :
    call.judge reply path = call.decode path reply.body := by
  have hfound : ¬reply.status = 404 := by omega
  simp [judge, notFound, hfound, isSuccess, hlow, hhigh]

theorem judge_of_failure {call : ServerCall} {reply : Reply}
    (hrange : ¬(200 ≤ reply.status ∧ reply.status < 300))
    (hmissing : reply.status = 404 → call.missing? = none) (path : String) :
    call.judge reply path = .error (failureOf reply path) := by
  have hstatus : isSuccess reply.status = false := by
    simpa [isSuccess] using hrange
  by_cases hfound : reply.status = 404
  · simp [judge, hmissing hfound, hstatus]
  · simp [judge, notFound, hfound, hstatus]

theorem isOutcome_of_judge {call : ServerCall} {url : Url} {answer : Option Reply}
    {outcome : Outcome call.Answer}
    (hunanswered : answer = none → ∃ reason,
      outcome = .error (.connection ("request to " ++ url.text ++ " failed: " ++ reason)))
    (hanswered : ∀ reply, answer = some reply → outcome = call.judge reply url.path.text) :
    call.IsOutcome url answer outcome where
  unanswered := hunanswered
  refused reply hreply hstatus := by
    refine ⟨_, Remote.isDetail_failureDetail reply, ?_⟩
    have hrefused : (reply.status == unauthorized || reply.status == forbidden) = true := by
      simpa [unauthorized, forbidden] using hstatus
    rw [hanswered reply hreply, judge_of_failure (by omega) (by omega), failureOf, if_pos hrefused]
  missing reply hreply hstatus value hvalue := by
    rw [hanswered reply hreply, judge, hvalue]
    simp [hstatus, notFound]
  failed reply hreply hrange hunauthorized hforbidden hmissing := by
    refine ⟨_, Remote.isDetail_failureDetail reply, ?_⟩
    have hother : ¬(reply.status == unauthorized || reply.status == forbidden) = true := by
      simp [unauthorized, forbidden, hunauthorized, hforbidden]
    rw [hanswered reply hreply, judge_of_failure hrange hmissing, failureOf, if_neg hother]
  read reply hreply hlow hhigh value hreads := by
    rw [hanswered reply hreply, judge_of_success call hlow hhigh, decode_of_reads hreads]
  unreadable reply hreply hlow hhigh hnot := by
    rw [hanswered reply hreply, judge_of_success call hlow hhigh]
    exact decode_of_unreadable hnot url.path.text

theorem IsOutcome.kind_of_error {call : ServerCall} {url : Url} {answer : Option Reply}
    {outcome : Outcome call.Answer} (h : call.IsOutcome url answer outcome) {e : CatalogError}
    (herror : outcome = .error e) :
    (∃ message, e = .connection message) ∨ (∃ message, e = .authentication message) ∨
      ∃ message, e = .backend message := by
  cases answer with
  | none =>
      obtain ⟨reason, hreason⟩ := h.unanswered rfl
      exact .inl ⟨_, Except.error.inj (herror.symm.trans hreason)⟩
  | some reply =>
      by_cases hrange : 200 ≤ reply.status ∧ reply.status < 300
      · by_cases hreads : ∃ value, call.Reads reply.body value
        · obtain ⟨value, hvalue⟩ := hreads
          have hok := h.read reply rfl hrange.1 hrange.2 value hvalue
          exact nomatch herror.symm.trans hok
        · obtain ⟨message, hmessage⟩ := h.unreadable reply rfl hrange.1 hrange.2
            fun value hvalue => hreads ⟨value, hvalue⟩
          exact .inr (.inr ⟨message, Except.error.inj (herror.symm.trans hmessage)⟩)
      · by_cases hrefused : reply.status = 401 ∨ reply.status = 403
        · obtain ⟨detail, -, hdetail⟩ := h.refused reply rfl hrefused
          exact .inr (.inl ⟨_, Except.error.inj (herror.symm.trans hdetail)⟩)
        · have hmissing : reply.status = 404 → call.missing? = none := by
            intro hstatus
            cases hvalue : call.missing? with
            | none => rfl
            | some value =>
                have hok := h.missing reply rfl hstatus value hvalue
                exact nomatch herror.symm.trans hok
          obtain ⟨hunauthorized, hforbidden⟩ := not_or.mp hrefused
          obtain ⟨detail, -, hdetail⟩ :=
            h.failed reply rfl hrange hunauthorized hforbidden hmissing
          exact .inr (.inr ⟨_, Except.error.inj (herror.symm.trans hdetail)⟩)

end ServerCall

/-! ## Answers of a network -/

namespace Http.Network

/-- The final answer to a request, if it arrives and is answered in time. -/
def answer? (net : Network) (request : Request) (query : List (String × String)) (timeout : Nat) :
    Option Reply :=
  if net.Takes request query then
    (net.follow (request.complete query) timeout mostRedirects).1.toOption
  else none

variable {net : Network} {request : Request} {query : List (String × String)} {timeout : Nat}

theorem toOption_send :
    (net.send request query timeout).1.toOption = net.answer? request query timeout := by
  unfold answer?
  split
  · next htakes => rw [(send_of_takes htakes timeout).1]
  · next hnot =>
      obtain ⟨failure, longer, hsend⟩ := send_of_not_takes (Bool.not_eq_true _ ▸ hnot) timeout
      rw [hsend net rfl]
      rfl

theorem send_of_answer {reply : Reply} (hanswer : net.answer? request query timeout = some reply) :
    (net.send request query timeout).1 = .ok reply := by
  rw [← toOption_send] at hanswer
  cases hsend : (net.send request query timeout).1 with
  | error failure => rw [hsend] at hanswer; cases hanswer
  | ok found => rw [hsend] at hanswer; cases hanswer; rfl

theorem send_of_no_answer (hanswer : net.answer? request query timeout = none) :
    ∃ failure, (net.send request query timeout).1 = .error failure := by
  rw [← toOption_send] at hanswer
  cases hsend : (net.send request query timeout).1 with
  | error failure => exact ⟨failure, rfl⟩
  | ok found => rw [hsend] at hanswer; cases hanswer

theorem answer?_of_isDirect (hdirect : net.IsDirect) (htakes : net.Takes request query = true) :
    net.answer? request query timeout = (net.deliver (sent request query) timeout).1 := by
  rw [← toOption_send, send_of_isDirect hdirect htakes]
  cases (net.deliver (sent request query) timeout).1 <;> rfl

def routeTo (request : Received) (answer : Option Reply) : Route :=
  { method := request.method
    url := request.url
    status := (answer.map Reply.status).getD 0
    body := (answer.bind Reply.body).getD []
    once := false
    delay := 0
    closes := answer.isNone
    truncated := (answer.bind Reply.body).isNone
    location := answer.bind Reply.location }

theorem reply_routeTo (request : Received) (reply : Reply) :
    (routeTo request (some reply)).reply = reply := by
  rcases reply with ⟨status, _ | body, location⟩ <;> rfl

theorem deliver_routeTo (request : Received) (answer : Option Reply) (timeout : Nat) :
    ((ofRoutes true [routeTo request answer]).deliver request timeout).1 = answer := by
  have hanswers : (routeTo request answer).answers request = true := by
    simp [Route.answers, routeTo]
  unfold deliver
  simp only [ofRoutes, List.find?_cons, hanswers]
  cases answer with
  | none => rfl
  | some reply => rw [reply_routeTo]; rfl

theorem isDirect_routeTo (request : Received) {answer : Option Reply}
    (hfinal : ∀ reply ∈ answer, reply.leadsOn = false) :
    (ofRoutes true [routeTo request answer]).IsDirect := by
  intro route hroute
  rw [List.mem_singleton.mp hroute]
  cases answer with
  | none => rfl
  | some reply => rw [reply_routeTo]; exact hfinal reply rfl

/-- Every answer that does not lead to another place can come, and none at all. -/
theorem exists_answer? (request : Request) (query : List (String × String)) (timeout : Nat)
    (hhttp : isPlainHttp request.url = true)
    (hshort : Request.isShort (fullUrl request.url query) = true)
    (htoken : request.token.all Request.isLegalToken = true) {answer : Option Reply}
    (hfinal : ∀ reply ∈ answer, reply.leadsOn = false) :
    ∃ net : Network, net.isReachable = true ∧ net.IsDirect ∧
      net.answer? request query timeout = answer := by
  have hdirect := isDirect_routeTo (sent request query) hfinal
  have htakes : (ofRoutes true [routeTo (sent request query) answer]).Takes request query =
      true := by
    simp [Takes, hhttp, hshort, htoken, ofRoutes]
  refine ⟨_, rfl, hdirect, ?_⟩
  rw [answer?_of_isDirect hdirect htakes, deliver_routeTo]

end Http.Network

/-! ## The outcomes of all calls -/

namespace ServerCall

variable {r : Remote} {call : ServerCall} {url : Url}

theorem run_apply (hurl : r.endpoint call.form.segments = .ok url) (net : Network) :
    call.run r net =
      ((Remote.outcomeAt url
          (net.send (r.requestAt call.form url) call.form.query r.timeout).1).bind
        fun reply => call.judge reply url.path.text,
        (net.send (r.requestAt call.form url) call.form.query r.timeout).2) := by
  rw [run_eq, Action.bind_answer_apply, Remote.exchange_eq hurl]
  cases Remote.outcomeAt url (net.send (r.requestAt call.form url) call.form.query r.timeout).1 <;>
    rfl

theorem isOutcome_run (hurl : r.endpoint call.form.segments = .ok url) (net : Network) :
    call.IsOutcome url (net.answer? (r.requestAt call.form url) call.form.query r.timeout)
      (call.run r net).1 := by
  rw [run_apply hurl]
  refine isOutcome_of_judge (fun hanswer => ?_) fun reply hanswer => ?_
  · obtain ⟨failure, hfailure⟩ := Network.send_of_no_answer hanswer
    rw [hfailure]
    exact ⟨failure.message, rfl⟩
  · rw [Network.send_of_answer hanswer]
    rfl

theorem received_run (hurl : r.endpoint call.form.segments = .ok url)
    (hhttp : Http.isPlainHttp url = true)
    (htoken : (call.form.authority.token? r.token).all Request.isLegalToken = true)
    {net : Network} (hdirect : net.IsDirect) :
    (call.run r net).2.received = net.received ++
      if net.isReachable && Request.isShort (fullUrl url call.form.query) then
        [sent (r.requestAt call.form url) call.form.query]
      else [] := by
  have harriving : r.arriving? call.form =
      if Request.isShort (fullUrl url call.form.query) then
        some (sent (r.requestAt call.form url) call.form.query)
      else none := by
    simp only [Remote.arriving?, Remote.isSent, hurl, hhttp, htoken, Bool.true_and, Bool.and_true]
  obtain ⟨trail, hreceived, htrail⟩ := r.exists_exchange_received call.form net
  rw [run_after, hreceived, htrail.eq_toList hdirect, harriving]
  cases net.isReachable <;> cases Request.isShort (fullUrl url call.form.query) <;> rfl

end ServerCall

namespace Remote

/--
Where all segments are accepted, the final answer to the request of an operation decides on its
outcome, and it fails in three ways only.  Over plain HTTP, with a token that a header can hold and
where no reply leads to another place, exactly one request arrives, unless its URL is too long or the
network is out of reach, and every answer to it can come.
-/
theorem replies_decide_outcomes (r : Remote) (call : ServerCall)
    (hsteps : call.form.segments.all isStep = true) :
    ∃ url, r.endpoint call.form.segments = .ok url ∧
      (∀ net, call.IsOutcome url
        (net.answer? (r.requestAt call.form url) call.form.query r.timeout) (call.run r net).1) ∧
      (∀ net e, (call.run r net).1 = .error e →
        (∃ message, e = .connection message) ∨ (∃ message, e = .authentication message) ∨
          ∃ message, e = .backend message) ∧
      (Http.isPlainHttp r.base = true →
        (call.form.authority.token? r.token).all Request.isLegalToken = true →
        (∀ net : Network, net.IsDirect → (call.run r net).2.received = net.received ++
          if net.isReachable && Request.isShort (fullUrl url call.form.query) then
            [sent (r.requestAt call.form url) call.form.query]
          else []) ∧
        (Request.isShort (fullUrl url call.form.query) = true →
          ∀ answer : Option Reply, (∀ reply ∈ answer, reply.leadsOn = false) →
            ∃ net : Network, net.isReachable = true ∧ net.IsDirect ∧
              net.answer? (r.requestAt call.form url) call.form.query r.timeout = answer)) := by
  have hurl : r.endpoint call.form.segments =
      .ok (r.base.extend ("v1" :: call.form.segments)) := if_pos hsteps
  refine ⟨_, hurl, ServerCall.isOutcome_run hurl,
    fun net _ => (ServerCall.isOutcome_run hurl net).kind_of_error, fun hbase htoken => ?_⟩
  have hhttp : Http.isPlainHttp (r.base.extend ("v1" :: call.form.segments)) = true :=
    (isPlainHttp_extend ..).trans hbase
  exact ⟨fun _ => ServerCall.received_run hurl hhttp htoken, fun hshort _ =>
    Network.exists_answer? (r.requestAt call.form _) call.form.query r.timeout hhttp hshort htoken⟩

theorem replies_decide_outcomes_of_sample :
    Http.isPlainHttp sampleRemote.base = true ∧
      Request.isLegalToken sampleRemote.token = true ∧
      ∃ url, sampleRemote.endpoint ["team", "pki", "certs"] = .ok url ∧
        Request.isShort (fullUrl url [("list", "true")]) = true ∧
        ∀ answer : Option Reply, (∀ reply ∈ answer, reply.leadsOn = false) →
          ∃ net, (ServerCall.listSerials "team/pki").IsOutcome url answer
            ((ServerCall.listSerials "team/pki").run sampleRemote net).1 := by
  have hbase : Http.isPlainHttp sampleRemote.base = true := by decide
  have htoken : Request.isLegalToken sampleRemote.token = true := by decide
  have hform : (ServerCall.listSerials "team/pki").form.segments = ["team", "pki", "certs"] := by
    decide
  obtain ⟨url, hurl, houtcome, -, hanswers⟩ :=
    replies_decide_outcomes sampleRemote (.listSerials "team/pki") (by decide)
  rw [hform] at hurl
  have hshort : Request.isShort (fullUrl url [("list", "true")]) = true := by
    obtain rfl := Except.ok.inj hurl
    decide +kernel
  refine ⟨hbase, htoken, url, hurl, hshort, fun answer hfinal => ?_⟩
  obtain ⟨net, -, -, hanswer⟩ := (hanswers hbase htoken).2 hshort answer hfinal
  exact ⟨net, hanswer ▸ houtcome net⟩

/-- A call whose URL is too long fails before anything is sent, whatever the server would answer. -/
theorem long_requests_stay_unsent :
    (ServerCall.readRecord "pki" (longWord 70000)).form.segments.all isStep = true ∧
      Http.isPlainHttp sampleRemote.base = true ∧
      Request.isLegalToken sampleRemote.token = true ∧
      ∀ net, ∃ message,
        (ServerCall.readRecord "pki" (longWord 70000)).run sampleRemote net =
          (.error (.connection message), net) :=
  ⟨all_isStep_longWord (by decide), by decide, by decide, readRecord_longWord (by decide)⟩

/-- A body may hold broken text where it is skipped over. -/
example :
    readBody (data? keys?)
      { status := 200
        body := some (Bytes.utf8 "\x7b\"data\":\x7b\"keys\":[\"01\"]\x7d,\"x\":\"" ++ [0xFF] ++
          Bytes.utf8 "\"\x7d") } "/" = .ok ["01"] := by
  decide +kernel

end Remote
end CertCatalog
