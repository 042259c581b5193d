import CertCatalog.Proofs.Text.Split
import CertCatalog.Proofs.Vault.Requests

/-!
# Least privilege

A write token goes out with the revocation that it was given for and with nothing else, the read
token with readings only, and a look at the health of a server needs none.  A reply that leads to
another place takes the token of its request there.
-/

namespace CertCatalog

open CertCatalog.Http (Network Received)
open CertCatalog.Url

/-- Texts that a header carries as they are. -/
def IsHeaderText (text : String) : Prop :=
  Http.Request.isLegalToken ⟨text⟩ = true ∧ Text.trim text = text

instance (text : String) : Decidable (IsHeaderText text) :=
  inferInstanceAs (Decidable (_ ∧ _))

def ServerCall.writeToken? : ServerCall → Option String
  | .revoke _ _ token => some token
  | _ => none

def ServerStep.writeToken? : ServerStep → Option String
  | .call asked => asked.writeToken?
  | .client _ (.revoke _ token) => some token
  | _ => none

theorem revocation?_eq_some {mounts : List String} {id token : String} {call : ServerCall}
    (hcall : revocation? mounts id token = some call) :
    ∃ mount serial, call = .revoke mount serial (Text.trim token) := by
  unfold revocation? at hcall
  split at hcall
  · cases hcall
  · split at hcall
    · next mount serial _ =>
        cases hcall
        exact ⟨mount, serial, rfl⟩
    · cases hcall

theorem writeToken?_of_makes {mounts : List String} {step : ServerStep} {calls : List ServerCall}
    (hcalls : step.Makes mounts calls) {call : ServerCall} (hcall : call ∈ calls) {token : String}
    (htoken : call.writeToken? = some token) :
    ∃ given, step.writeToken? = some given ∧ (token = given ∨ token = Text.trim given) := by
  cases step with
  | call asked =>
      obtain rfl : calls = [asked] := hcalls
      obtain rfl : call = asked := List.mem_singleton.mp hcall
      exact ⟨token, htoken, .inl rfl⟩
  | client now step =>
      cases step with
      | revoke id given =>
          obtain rfl : calls = (revocation? mounts id given).toList := hcalls
          obtain ⟨mount, serial, rfl⟩ := revocation?_eq_some (Option.mem_toList.mp hcall)
          exact ⟨given, rfl, .inr (Option.some.inj htoken).symm⟩
      | check =>
          rcases hcalls with rfl | rfl
          · obtain rfl := List.mem_singleton.mp hcall
            cases htoken
          · rcases List.mem_pair.mp hcall with rfl | rfl <;> cases htoken
      | _ =>
          have hreading : call.isReading = true := hcalls call hcall
          cases call <;> cases htoken
          cases hreading
  | readCrl mount =>
      obtain rfl : calls = if mounts.contains mount then [.readCrl mount] else [] := hcalls
      obtain ⟨-, hsame⟩ := List.mem_ite_nil_right.mp hcall
      obtain rfl := List.mem_singleton.mp hsame
      cases htoken
  | rotateCrl mount =>
      obtain rfl : calls = if mounts.contains mount then [.rotateCrl mount] else [] := hcalls
      obtain ⟨-, hsame⟩ := List.mem_ite_nil_right.mp hcall
      obtain rfl := List.mem_singleton.mp hsame
      cases htoken
  | sweep now =>
      obtain rfl : calls = [] := hcalls
      cases hcall

namespace Remote

/-! ## Places of mounts -/

theorem all_dropWhile {p q : Char → Bool} (h : ∀ c, q c = true → p c = true) (text : List Char) :
    (text.dropWhile q).all p = text.all p := by
  induction text with
  | nil => rfl
  | cons c rest ih =>
      rw [List.dropWhile_cons]
      split
      · next hc => rw [ih, List.all_cons, h c hc, Bool.true_and]
      · rfl

theorem all_trimSlashes {p : Char → Bool} (hslash : p '/' = true) (text : List Char) :
    (trimSlashes text).all p = text.all p := by
  have hslashes : ∀ c : Char, (c == '/') = true → p c = true := by
    intro c hc
    rw [beq_iff_eq.mp hc, hslash]
  rw [trimSlashes, List.all_reverse, all_dropWhile hslashes, List.all_reverse,
    all_dropWhile hslashes]

theorem isUnbroken_belowMount_iff (mount : String) {segments : List String}
    (hsegments : ∀ segment ∈ segments, isUnbroken segment = true) :
    (∀ segment ∈ belowMount mount segments, isUnbroken segment = true) ↔
      isUnbroken mount = true := by
  rw [belowMount, List.forall_mem_append, and_iff_left hsegments]
  unfold isUnbroken
  rw [Text.forall_mem_splitOn_iff (by decide), String.toList_ofList, all_trimSlashes (by decide)]

/-! ## What a request carries -/

/-- The request of a call, to this URL: whose token it carries and what it says. -/
def Carries (r : Remote) (call : ServerCall) (url : Url) (request : Received) : Prop :=
  request.url = (Http.fullUrl url call.form.query).withoutFragment.text ∧
    match call with
    | .revoke _ serial token =>
        request.method = "POST" ∧ request.token = some token ∧
          Json.parse? request.body = some (.ofFields [("serial_number", .str serial)])
    | .health => request.method = "GET" ∧ request.token = none ∧ request.body = ""
    | _ => request.method = "GET" ∧ request.token = some r.token.exposed ∧ request.body = ""

variable {r : Remote}

theorem arriving?_eq_some_iff {form : RequestForm} {request : Received} :
    r.arriving? form = some request ↔
      ∃ url, r.endpoint form.segments = .ok url ∧ r.isSent form url = true ∧
        Http.sent (r.requestAt form url) form.query = request := by
  unfold arriving?
  cases r.endpoint form.segments with
  | error e => simp
  | ok url => simp

theorem parse?_revocationBody (serial : String) :
    Json.parse? (revocationBody serial) =
      some (.ofFields [("serial_number", .str serial)]) :=
  Json.parse?_compact rfl

theorem carries_of_arriving? (hread : IsHeaderText r.token.exposed) {call : ServerCall}
    (hwrite : ∀ token ∈ call.writeToken?, IsHeaderText token) {request : Received}
    (hrequest : r.arriving? call.form = some request) :
    ∃ url, r.endpoint call.form.segments = .ok url ∧ r.Carries call url request := by
  obtain ⟨url, hurl, -, rfl⟩ := arriving?_eq_some_iff.mp hrequest
  refine ⟨url, hurl, rfl, ?_⟩
  cases call with
  | revoke mount serial token =>
      exact ⟨rfl, congrArg some (hwrite token rfl).2, parse?_revocationBody serial⟩
  | health => exact ⟨rfl, rfl, rfl⟩
  | _ => exact ⟨rfl, congrArg some hread.2, rfl⟩

theorem isSome_arriving? (hhttp : Http.isPlainHttp r.base = true)
    (hbase : ∃ steps, r.base.path = .segments steps)
    (hread : Http.Request.isLegalToken r.token = true) {call : ServerCall}
    (hwrite : ∀ token ∈ call.writeToken?, IsHeaderText token) {url : Url}
    (hurl : r.endpoint call.form.segments = .ok url)
    (hshort : Http.Request.isShort (Http.fullUrl url call.form.query) = true) :
    (r.arriving? call.form).isSome = true := by
  obtain ⟨steps, hsteps⟩ := hbase
  have hplain : Http.isPlainHttp url = true := by
    rw [(endpoint_eq_ok hsteps hurl).2]
    exact hhttp
  have hlegal : (call.form.authority.token? r.token).all Http.Request.isLegalToken = true := by
    cases call with
    | revoke mount serial token => exact (hwrite token rfl).1
    | health => rfl
    | _ => exact hread
  have hsent : r.isSent call.form url = true := by
    rw [isSent, hplain, hshort, hlegal]
    rfl
  exact Option.isSome_iff_exists.mpr ⟨_, arriving?_eq_some_iff.mpr ⟨url, hurl, hsent, rfl⟩⟩

/-! ## Runs -/

open CertCatalog.VaultClient (takeAll callsOf)

theorem isHeaderText_of_callsOf {steps : List ServerStep}
    (hsteps : ∀ step ∈ steps, ∀ token ∈ step.writeToken?, IsHeaderText token) (v : VaultClient)
    (net : Network) {call : ServerCall}
    (hcall : call ∈ (callsOf r.server steps (v, net)).flatten) :
    ∀ token ∈ call.writeToken?, IsHeaderText token := by
  intro token htoken
  obtain ⟨calls, hcalls, hmem⟩ := List.mem_flatten.mp hcall
  obtain ⟨step, hstep, hmakes⟩ :=
    Action.exists_item_of_mem (VaultClient.forall₂_callsOf r.server v net steps) hcalls
  obtain ⟨given, hgiven, hsame⟩ := writeToken?_of_makes hmakes hmem htoken
  have hheader := hsteps step hstep given hgiven
  rcases hsame with rfl | rfl
  · exact hheader
  · rwa [hheader.2]

/--
In every run of a server over HTTP and of a client that uses it, exactly the requests of the calls
arrive, in order, each with the token that is meant for it and followed by those that its replies ask
for, which carry the same token; where no reply leads elsewhere nothing else arrives.  A refused
place gets no request, and neither does a URL that is too long.  The place of a revocation goes on
with the segments of its mount exactly if the mount holds no tabs and no line breaks.  Another read
token changes no revocation and no look at the health, and, where no reply leads elsewhere, another
write token changes only what the step does that it is given to.
-/
theorem requests_carry_their_own_tokens {address : String} {token : Secret} {trust : TrustOptions}
    {timeout : Nat} {r : Remote} (hr : ofAddress address token trust timeout = .ok r)
    (htoken : IsHeaderText token.exposed) {steps : List ServerStep}
    (hsteps : ∀ step ∈ steps, ∀ written ∈ step.writeToken?, IsHeaderText written)
    (v : VaultClient) (net : Network) :
    List.Forall₂ (ServerStep.Makes v.mounts) steps (callsOf r.server steps (v, net)) ∧
    r.Arrived net (callsOf r.server steps (v, net)).flatten (takeAll r.server (v, net) steps).2 ∧
    (net.IsDirect → (takeAll r.server (v, net) steps).2.received =
      net.received ++
        (if net.isReachable then
          (callsOf r.server steps (v, net)).flatten.filterMap fun call => r.arriving? call.form
        else [])) ∧
    (∀ call ∈ (callsOf r.server steps (v, net)).flatten,
      (∀ request, r.arriving? call.form = some request →
        ∃ url, r.endpoint call.form.segments = .ok url ∧ r.Carries call url request) ∧
      (Http.isPlainHttp r.base = true → ∀ url, r.endpoint call.form.segments = .ok url →
        Http.Request.isShort (Http.fullUrl url call.form.query) = true →
        (r.arriving? call.form).isSome = true)) ∧
    (∀ mount url, r.endpoint (belowMount mount ["revoke"]) = .ok url →
      (r.base.Continues url (belowMount mount ["revoke"]) ↔ isUnbroken mount = true)) ∧
    ∀ otherToken other others, ofAddress address otherToken trust timeout = .ok other →
      IsHeaderText otherToken.exposed → List.Forall₂ ServerStep.SameButToken steps others →
      (net.IsDirect → ∀ place : Nat, steps[place]? = others[place]? →
        (callsOf r.server steps (v, net))[place]? =
          (callsOf other.server others (v, net))[place]?) ∧
      (∀ mount serial written, r.arriving? (ServerCall.revoke mount serial written).form =
        other.arriving? (ServerCall.revoke mount serial written).form) ∧
      r.arriving? ServerCall.health.form = other.arriving? ServerCall.health.form ∧
      ∀ form, (r.arriving? form).map (fun request => { request with token := none }) =
        (other.arriving? form).map fun request => { request with token := none } := by
  have hread : IsHeaderText r.token.exposed := by
    rwa [token_of_ofAddress hr]
  have hwrite : ∀ call ∈ (callsOf r.server steps (v, net)).flatten,
      ∀ written ∈ call.writeToken?, IsHeaderText written :=
    fun call hcall => isHeaderText_of_callsOf hsteps v net hcall
  have harrived := r.arrived_takeAll v net steps
  refine ⟨VaultClient.forall₂_callsOf r.server v net steps, harrived, harrived.received_eq,
    fun call hcall => ⟨fun request hrequest => ?_, fun hhttp url hurl hshort => ?_⟩,
    fun mount url hurl => ?_, fun otherToken other others hother hotherToken hothers => ?_⟩
  · exact carries_of_arriving? hread (hwrite call hcall) hrequest
  · exact isSome_arriving? hhttp (exists_segments_of_ofAddress hr) hread.1 (hwrite call hcall) hurl
      hshort
  · rw [(endpoint_continues_iff hr hurl).2.1]
    exact isUnbroken_belowMount_iff mount (by decide)
  · have hplace : SamePlace r other := samePlace_of_ofAddress hr hother htoken.1 hotherToken.1
    have hrevoke : ∀ mount serial written,
        (ServerCall.revoke mount serial written).form.authority ≠ .reader := by
      intro mount serial written
      simp [ServerCall.form]
    have hhealth : ServerCall.health.form.authority ≠ .reader := by decide
    refine ⟨fun hdirect place hsame => ?_, fun mount serial written => ?_, ?_,
      hplace.map_arriving?⟩
    · exact VaultClient.callsOf_alike hplace.actsAlike (hidesRevocations r other) hothers v
        (.refl hdirect) hsame
    · exact hplace.arriving?_eq (hrevoke mount serial written)
    · exact hplace.arriving?_eq hhealth

def sampleRequests (written : String) : List ServerStep :=
  [.client 0 (.revoke "team/pki:0a" written), .client 1 .check,
    .client 2 (.revoke "team/pki:0a" ""), .call (.listSerials "pki"),
    .call (.revoke ".." "0a" "w")]

def sampleUser : VaultClient := .start "v" ["team/pki"] 60000 none

theorem requests_carry_their_own_tokens_of_sample :
    (takeAll sampleRemote.server (sampleUser, .ofRoutes true [])
        (sampleRequests "w")).2.received.map
        (fun request => (request.method, request.url, request.token)) =
      [("POST", "http://127.0.0.1:8200/vault/v1/team/pki/revoke", some "w"),
        ("GET", "http://127.0.0.1:8200/vault/v1/sys/health?standbyok=true&perfstandbyok=true" ++
          "&sealedcode=200&uninitcode=200", none),
        ("GET", "http://127.0.0.1:8200/vault/v1/pki/certs?list=true", some "r")] ∧
      List.Forall₂ (ServerStep.Makes ["team/pki"]) (sampleRequests "w")
        (callsOf sampleRemote.server (sampleRequests "w") (sampleUser, .ofRoutes true [])) ∧
      (callsOf sampleRemote.server (sampleRequests "w") (sampleUser, .ofRoutes true []))[3]? =
        (callsOf { sampleRemote with token := ⟨"q"⟩ }.server (sampleRequests "x")
          (sampleUser, .ofRoutes true []))[3]? := by
  have hr : ofAddress "http://127.0.0.1:8200/vault/" ⟨"r"⟩
      { skipVerification := false, bundle := none } 5000 = .ok sampleRemote := by
    decide +kernel
  have hother : ofAddress "http://127.0.0.1:8200/vault/" ⟨"q"⟩
      { skipVerification := false, bundle := none } 5000 =
        .ok { sampleRemote with token := ⟨"q"⟩ } := by
    decide +kernel
  have hothers : List.Forall₂ ServerStep.SameButToken (sampleRequests "w") (sampleRequests "x") :=
    .cons (.client 0 "team/pki:0a" "w" "x") (List.forall₂_same.mpr fun step _ => .refl step)
  have htokens : ∀ step ∈ sampleRequests "w", ∀ written ∈ step.writeToken?,
      IsHeaderText written := by decide
  obtain ⟨hmakes, -, -, -, -, halike⟩ :=
    requests_carry_their_own_tokens hr (by decide) htokens sampleUser (.ofRoutes true [])
  exact ⟨by decide +kernel, hmakes,
    (halike ⟨"q"⟩ _ _ hother (by decide) hothers).1 (Network.isDirect_ofRoutes_nil true) 3 rfl⟩

/-! ## Revocations that leave their mounts -/

/-- A server that sends revocations of one mount to another server. -/
def leadingAway : Http.Route :=
  { method := "POST"
    url := "http://127.0.0.1:8200/vault/v1/pki/revoke"
    status := 302
    body := []
    once := false
    delay := 0
    closes := false
    truncated := false
    location := some
      { sampleBase with
        authority := sampleBase.authority.map fun a => { a with host := .domain "elsewhere" }
        path := .segments [""] } }

/--
A revocation for a mount of two dots with a tab between them.  Its write token goes to a place that
is not below the version of the interface, let alone below this mount.  And a revocation whose reply
leads to another server: its write token goes there with a reading.
-/
theorem revocations_leave_their_mounts :
    sampleRemote.endpoint (belowMount ".\t." ["revoke"]) =
        .ok { sampleBase with path := .segments ["vault", "", "revoke"] } ∧
      (sampleRemote.revoke ".\t." "01" "w" (.ofRoutes true [])).2.received =
        [{ method := "POST"
           url := "http://127.0.0.1:8200/vault//revoke"
           token := some "w"
           body := revocationBody "01" }] ∧
      ¬sampleBase.Continues { sampleBase with path := .segments ["vault", "", "revoke"] }
        (belowMount ".\t." ["revoke"]) ∧
      (sampleRemote.revoke "pki" "01" "w" (.ofRoutes true [leadingAway])).2.received =
        [{ method := "POST"
           url := "http://127.0.0.1:8200/vault/v1/pki/revoke"
           token := some "w"
           body := revocationBody "01" },
          { method := "GET"
            url := "http://elsewhere:8200/"
            token := some "w"
            body := "" }] := by
  refine ⟨by decide +kernel, by decide +kernel, ?_, by decide +kernel⟩
  rintro ⟨steps, encoded, hbase, hpath, -, -⟩
  obtain rfl : ["vault", ""] = steps := Path.segments.inj hbase
  have hstep := (List.cons.inj (List.cons.inj (Path.segments.inj hpath)).2).1
  exact absurd hstep (by decide)

end Remote
end CertCatalog
