import CertCatalog.Http.Network
import CertCatalog.Proofs.Action

/-!
# Sending over a network

When a request arrives, what arrives, and what else is sent where a reply leads to another place.
-/

namespace CertCatalog.Http

/-! ## Targets -/

/-- Credentials that are no text stay where they are. -/
def keepsCredentials (a : Url.Authority) : Bool :=
  (Bytes.text? (Url.percentDecode a.username.toList)).isNone ||
    (a.username.isEmpty && (Bytes.text? (Url.percentDecode a.password.toList)).isNone)

def sentAuthority (a : Url.Authority) : Url.Authority :=
  if keepsCredentials a then a else { a with username := "", password := "" }

theorem target_eq (url : Url) :
    Request.target url = { url with authority := url.authority.map sentAuthority } := by
  obtain ⟨scheme, authority, path, query, fragment⟩ := url
  cases authority with
  | none => rfl
  | some a =>
      simp only [Request.target, Option.map_some, sentAuthority, keepsCredentials,
        Bool.or_eq_true]
      split
      · next hname => rw [if_pos (.inl hname)]
      · next hname =>
          split
          · next hword => rw [if_pos (.inr hword)]
          · next hword => rw [if_neg (not_or.mpr ⟨hname, hword⟩)]; rfl

@[simp] theorem host_sentAuthority (a : Url.Authority) : (sentAuthority a).host = a.host := by
  unfold sentAuthority
  split <;> rfl

@[simp] theorem sentAuthority_sentAuthority (a : Url.Authority) :
    sentAuthority (sentAuthority a) = sentAuthority a := by
  by_cases hkept : keepsCredentials a = true
  · have hsame : sentAuthority a = a := if_pos hkept
    rw [hsame, hsame]
  · have hplain : sentAuthority a = { a with username := "", password := "" } := if_neg hkept
    rw [hplain, sentAuthority]
    split <;> rfl

def fullUrl (url : Url) (query : List (String × String)) : Url :=
  if query.isEmpty then Request.target url else (Request.target url).addQuery query

theorem scheme_fullUrl (url : Url) (query : List (String × String)) :
    (fullUrl url query).scheme = url.scheme := by
  unfold fullUrl
  split <;> simp only [target_eq, Url.addQuery]

theorem path_fullUrl (url : Url) (query : List (String × String)) :
    (fullUrl url query).path = url.path := by
  unfold fullUrl
  split <;> simp only [target_eq, Url.addQuery]

theorem authority_fullUrl (url : Url) (query : List (String × String)) :
    (fullUrl url query).authority = url.authority.map sentAuthority := by
  unfold fullUrl
  split <;> simp only [target_eq, Url.addQuery]

/-- The target of a full URL is this URL, so it is received as it was made. -/
theorem target_fullUrl (url : Url) (query : List (String × String)) :
    Request.target (fullUrl url query) = fullUrl url query := by
  rw [target_eq, authority_fullUrl, Option.map_map]
  have hsame : sentAuthority ∘ sentAuthority = sentAuthority := funext sentAuthority_sentAuthority
  rw [hsame, ← authority_fullUrl url query]

/-! ## Requests that arrive -/

def isPlainHttp (url : Url) : Bool :=
  url.scheme == "http" &&
    url.authority.any fun a => a.host != .empty && a.host.text.toList.all Request.isHostChar

def sent (request : Request) (query : List (String × String)) : Received :=
  { method := request.method.name
    url := (fullUrl request.url query).withoutFragment.text
    token := request.token.map fun token => Text.trim token.exposed
    body := request.body.getD "" }

theorem receive_eq_sent (request : Request) (query : List (String × String)) :
    Network.receive { request with url := fullUrl request.url query } = sent request query := by
  simp only [Network.receive, sent, target_fullUrl]

def Request.complete (request : Request) (query : List (String × String)) : Request :=
  { request with url := fullUrl request.url query }

namespace Network

/--
A request arrives if it is plain, its URL is not too long, its token is legal and the network is in
reach.
-/
def Takes (net : Network) (request : Request) (query : List (String × String)) : Bool :=
  isPlainHttp request.url && Request.isShort (fullUrl request.url query) &&
    request.token.all Request.isLegalToken && net.isReachable

theorem isWeb_fullUrl (url : Url) (query : List (String × String)) :
    Request.isWeb (fullUrl url query) = Request.isWeb url := by
  rw [Request.isWeb, Request.isWeb, scheme_fullUrl]

theorem isUsable_fullUrl (url : Url) (query : List (String × String)) :
    Request.isUsable (fullUrl url query) =
      (Request.isShort (fullUrl url query) &&
        url.authority.any fun a => a.host.text.toList.all Request.isHostChar) := by
  rw [Request.isUsable, authority_fullUrl, Option.any_map]
  simp only [host_sentAuthority]

def outcomeOf (url : Url) : Option Reply → Except Failure Reply
  | some reply => .ok reply
  | none => .error (.noReply url)

theorem transmit_complete (net : Network) (request : Request) (query : List (String × String))
    (timeout : Nat) :
    net.transmit (request.complete query) timeout =
      if request.url.scheme == "https" || !net.isReachable then
        (none, { net with waited := net.waited + 1 })
      else net.deliver (sent request query) timeout := by
  have hreceive : receive (request.complete query) = sent request query :=
    receive_eq_sent request query
  rw [transmit, hreceive, Request.complete, scheme_fullUrl]

theorem send_eq (net : Network) (request : Request) (query : List (String × String))
    (timeout : Nat) :
    net.send request query timeout =
      if !request.url.hasHost then (.error (.unusableUrl request.url), net)
      else if !request.token.all Request.isLegalToken then (.error .illegalToken, net)
      else if !Request.isWeb request.url || !Request.isUsable (fullUrl request.url query) then
        (.error (.unusableUrl (fullUrl request.url query)), net)
      else net.follow (request.complete query) timeout mostRedirects := by
  rw [← isWeb_fullUrl request.url query]
  rfl

theorem send_of_takes {net : Network} {request : Request} {query : List (String × String)}
    (htakes : net.Takes request query = true) (timeout : Nat) :
    net.send request query timeout =
        net.follow (request.complete query) timeout mostRedirects ∧
      net.transmit (request.complete query) timeout =
        net.deliver (sent request query) timeout := by
  simp only [Takes, isPlainHttp, Bool.and_eq_true, beq_iff_eq, Option.any_eq_true] at htakes
  obtain ⟨⟨⟨⟨hscheme, a, ha, hnonempty, hhost⟩, hshort⟩, htoken⟩, hreachable⟩ := htakes
  have hhasHost : request.url.hasHost = true := by
    simp only [Url.hasHost, ha, hnonempty]
  have hweb : Request.isWeb request.url = true := by
    simp [Request.isWeb, hscheme]
  have husable : Request.isUsable (fullUrl request.url query) = true := by
    simp only [isUsable_fullUrl, hshort, ha, Option.any_some, hhost, Bool.and_self]
  constructor
  · rw [send_eq]
    simp [hhasHost, htoken, hweb, husable]
  · rw [transmit_complete]
    simp [hscheme, hreachable]

theorem send_of_not_takes {net : Network} {request : Request} {query : List (String × String)}
    (hnot : net.Takes request query = false) (timeout : Nat) :
    ∃ failure longer, ∀ other : Network, other.isReachable = net.isReachable →
      other.send request query timeout =
        (.error failure, { other with waited := other.waited + longer }) := by
  by_cases hhost : (!request.url.hasHost) = true
  · exact ⟨.unusableUrl request.url, 0, fun other _ => by rw [send_eq, if_pos hhost]; rfl⟩
  by_cases htoken : (!request.token.all Request.isLegalToken) = true
  · exact ⟨.illegalToken, 0, fun other _ => by
      rw [send_eq, if_neg hhost, if_pos htoken]; rfl⟩
  by_cases hplace :
      (!Request.isWeb request.url || !Request.isUsable (fullUrl request.url query)) = true
  · exact ⟨.unusableUrl (fullUrl request.url query), 0, fun other _ => by
      rw [send_eq, if_neg hhost, if_neg htoken, if_pos hplace]; rfl⟩
  by_cases hcut : (request.url.scheme == "https" || !net.isReachable) = true
  · refine ⟨.noReply (fullUrl request.url query), 1, fun other hsame => ?_⟩
    rw [send_eq, if_neg hhost, if_neg htoken, if_neg hplace, follow, transmit_complete, hsame,
      if_pos hcut]
    rfl
  · -- All guards are passed, so the request is taken.
    have htakes : net.Takes request query = true := by
      rw [isUsable_fullUrl] at hplace
      cases hauthority : request.url.authority with
      | none => simp [Url.hasHost, hauthority] at hhost
      | some a => simp_all [Takes, isPlainHttp, Url.hasHost, Request.isWeb]
    rw [hnot] at htakes
    cases htakes

/-! ## Redirects -/

end Network

def Reply.leadsOn (reply : Reply) : Bool :=
  reply.location.isSome && [301, 302, 303, 307, 308].contains reply.status

theorem redirected?_of_not_leadsOn (request : Request) {reply : Reply}
    (hnot : reply.leadsOn = false) : request.redirected? reply = none := by
  unfold Request.redirected?
  split
  · rfl
  · next url hlocation =>
      simp only [Reply.leadsOn, hlocation, Option.isSome_some, Bool.true_and, List.contains_cons,
        List.contains_nil, Bool.or_eq_false_iff] at hnot
      obtain ⟨hmoved, hfound, hother, hagain, hforever, -⟩ := hnot
      simp only [List.contains_cons, List.contains_nil, hmoved, hfound, hother, hagain, hforever,
        Bool.or_false, Bool.false_eq_true, if_false, ite_self]

namespace Network

/-- No reply of a network leads to another place. -/
def IsDirect (net : Network) : Prop :=
  ∀ route ∈ net.routes, route.reply.leadsOn = false

instance (net : Network) : Decidable net.IsDirect :=
  inferInstanceAs (Decidable (∀ route ∈ net.routes, _))

theorem isDirect_ofRoutes_nil (isReachable : Bool) : (ofRoutes isReachable []).IsDirect :=
  nofun

theorem keeps_follow {kept : Network → Prop}
    (h : ∀ net request timeout, kept net → kept (net.transmit request timeout).2) {net : Network}
    (hnet : kept net) (request : Request) (timeout redirects : Nat) :
    kept (net.follow request timeout redirects).2 := by
  induction redirects generalizing net request timeout with
  | zero =>
      have hafter := h net request timeout hnet
      unfold follow
      split
      · next hrun => rwa [hrun] at hafter
      · next hrun =>
          rw [hrun] at hafter
          split <;> exact hafter
  | succ left ih =>
      have hafter := h net request timeout hnet
      unfold follow
      split
      · next hrun => rwa [hrun] at hafter
      · next hrun =>
          rw [hrun] at hafter
          split
          · exact hafter
          · dsimp only
            split
            · exact ih hafter _ _
            · exact hafter

theorem keeps_send {kept : Network → Prop}
    (h : ∀ net request timeout, kept net → kept (net.transmit request timeout).2) {net : Network}
    (hnet : kept net) (request : Request) (query : List (String × String)) (timeout : Nat) :
    kept (net.send request query timeout).2 := by
  rw [send_eq]
  repeat' split
  · exact hnet
  · exact hnet
  · exact hnet
  · exact keeps_follow h hnet _ _ _

theorem used_subset (routes : List Route) (route : Route) : used routes route ⊆ routes := by
  unfold used
  split
  · exact List.erase_subset
  · exact fun _ hmem => hmem

theorem deliver_isReachable (net : Network) (request : Received) (timeout : Nat) :
    (net.deliver request timeout).2.isReachable = net.isReachable := by
  unfold deliver
  dsimp only
  split
  · rfl
  · split <;> rfl

theorem deliver_routes_subset (net : Network) (request : Received) (timeout : Nat) :
    (net.deliver request timeout).2.routes ⊆ net.routes := by
  unfold deliver
  dsimp only
  split
  · exact fun _ hmem => hmem
  · split <;> exact used_subset _ _

theorem IsDirect.deliver {net : Network} (h : net.IsDirect) (request : Received) (timeout : Nat) :
    (net.deliver request timeout).2.IsDirect :=
  fun route hroute => h route (deliver_routes_subset net request timeout hroute)

theorem IsDirect.transmit {net : Network} (h : net.IsDirect) (request : Request) (timeout : Nat) :
    (net.transmit request timeout).2.IsDirect := by
  unfold Network.transmit
  split
  · exact h
  · exact h.deliver _ _

theorem IsDirect.send {net : Network} (h : net.IsDirect) (request : Request)
    (query : List (String × String)) (timeout : Nat) :
    (net.send request query timeout).2.IsDirect :=
  keeps_send (fun _ request timeout hnet => hnet.transmit request timeout) h request query timeout

theorem send_isReachable (net : Network) (request : Request) (query : List (String × String))
    (timeout : Nat) :
    (net.send request query timeout).2.isReachable = net.isReachable := by
  have hkept : ∀ (after : Network) (request : Request) (timeout : Nat),
      after.isReachable = net.isReachable →
      (after.transmit request timeout).2.isReachable = net.isReachable := by
    intro after request timeout hafter
    unfold transmit
    split
    · exact hafter
    · rw [deliver_isReachable, hafter]
  exact keeps_send hkept rfl request query timeout

theorem IsDirect.leadsOn_eq {net : Network} (h : net.IsDirect) {request : Received} {timeout : Nat}
    {reply : Reply} (hreply : (net.deliver request timeout).1 = some reply) :
    reply.leadsOn = false := by
  unfold Network.deliver at hreply
  dsimp only at hreply
  split at hreply
  · cases hreply
    rfl
  · next route hroute =>
      split at hreply
      · cases hreply
      · cases hreply
        exact h route (List.mem_of_find?_eq_some hroute)

theorem IsDirect.follow_eq {net : Network} (h : net.IsDirect) (request : Request)
    (timeout redirects : Nat) :
    net.follow request timeout redirects =
      (outcomeOf request.url (net.transmit request timeout).1,
        (net.transmit request timeout).2) := by
  unfold follow
  split
  · next hrun => rw [hrun]; rfl
  · next reply after hrun =>
      have hreply : (net.deliver (receive request) timeout).1 = some reply := by
        rw [Network.transmit] at hrun
        split at hrun
        · cases hrun
        · rw [hrun]
      rw [hrun, redirected?_of_not_leadsOn request (h.leadsOn_eq hreply)]
      rfl

theorem send_of_isDirect {net : Network} (h : net.IsDirect) {request : Request}
    {query : List (String × String)} (htakes : net.Takes request query = true) (timeout : Nat) :
    net.send request query timeout =
      (outcomeOf (fullUrl request.url query) (net.deliver (sent request query) timeout).1,
        (net.deliver (sent request query) timeout).2) := by
  obtain ⟨hsend, htransmit⟩ := send_of_takes htakes timeout
  rw [hsend, h.follow_eq, htransmit]
  rfl

/-! ## What arrives -/

/-- A request that is sent on keeps its token; it stays as it is or becomes a plain reading. -/
def IsSentOn (first later : Received) : Prop :=
  later.token = first.token ∧
    (later.method = Method.get.name ∧ later.body = "" ∨
      later.method = first.method ∧ later.body = first.body)

theorem IsSentOn.trans {first second third : Received} (h : IsSentOn first second)
    (hnext : IsSentOn second third) : IsSentOn first third := by
  refine ⟨hnext.1.trans h.1, ?_⟩
  rcases hnext.2 with hplain | ⟨hmethod, hbody⟩
  · exact .inl hplain
  · rw [hmethod, hbody]
    exact h.2

theorem isSentOn_redirected {request next : Request} {reply : Reply}
    (hnext : request.redirected? reply = some next) :
    IsSentOn (receive request) (receive next) := by
  unfold Request.redirected? at hnext
  split at hnext
  · cases hnext
  · split at hnext
    · cases hnext
    · split at hnext
      · cases hnext
        exact ⟨rfl, .inl ⟨rfl, rfl⟩⟩
      · split at hnext
        · cases hnext
          exact ⟨rfl, .inr ⟨rfl, rfl⟩⟩
        · cases hnext

theorem deliver_received (net : Network) (request : Received) (timeout : Nat) :
    (net.deliver request timeout).2.received = net.received ++ [request] := by
  unfold deliver
  dsimp only
  split
  · rfl
  · split <;> rfl

theorem received_transmit (net : Network) (request : Request) (timeout : Nat) :
    (net.transmit request timeout).2.received = net.received ∨
      (net.transmit request timeout).2.received = net.received ++ [receive request] := by
  unfold transmit
  split
  · exact .inl rfl
  · exact .inr (deliver_received _ _ _)

theorem exists_received_follow (net : Network) (request : Request) (timeout redirects : Nat) :
    ∃ more : List Received,
      (net.follow request timeout redirects).2.received =
        (net.transmit request timeout).2.received ++ more ∧
      ∀ later ∈ more, IsSentOn (receive request) later := by
  induction redirects generalizing net request timeout with
  | zero =>
      refine ⟨[], ?_, nofun⟩
      rw [List.append_nil]
      unfold follow
      split
      · next hrun => rw [hrun]
      · next hrun =>
          rw [hrun]
          split <;> rfl
  | succ left ih =>
      unfold follow
      split
      · next hrun => exact ⟨[], by rw [hrun, List.append_nil], nofun⟩
      · next reply after hrun =>
          rw [hrun]
          split
          · exact ⟨[], by rw [List.append_nil], nofun⟩
          · next following hfollowing =>
              have hstep := isSentOn_redirected hfollowing
              dsimp only
              split
              · obtain ⟨more, hmore, hall⟩ :=
                  ih after following (timeout - (after.waited - net.waited))
                have hlater : ∀ later ∈ more, IsSentOn (receive request) later :=
                  fun later hmem => hstep.trans (hall later hmem)
                rcases received_transmit after following
                    (timeout - (after.waited - net.waited)) with hnone | hone
                · exact ⟨more, by rw [hmore, hnone], hlater⟩
                · refine ⟨receive following :: more, ?_, ?_⟩
                  · rw [hmore, hone, List.append_assoc, List.singleton_append]
                  · exact List.forall_mem_cons.mpr ⟨hstep, hlater⟩
              · exact ⟨[], by rw [List.append_nil], nofun⟩

/--
What arrives for a request: nothing, or the request and those that it is sent on as.  In a direct
network it is not sent on.
-/
def IsTrailOf (isDirect : Prop) (first? : Option Received) (trail : List Received) : Prop :=
  match first? with
  | none => trail = []
  | some first => ∃ more, trail = first :: more ∧ (∀ later ∈ more, IsSentOn first later) ∧
      (isDirect → more = [])

theorem IsTrailOf.imp {isDirect other : Prop} (h : other → isDirect) {first? : Option Received}
    {trail : List Received} (htrail : IsTrailOf isDirect first? trail) :
    IsTrailOf other first? trail := by
  cases first? with
  | none => exact htrail
  | some first =>
      obtain ⟨more, htrail, hsent, hdirect⟩ := htrail
      exact ⟨more, htrail, hsent, fun hother => hdirect (h hother)⟩

theorem IsTrailOf.eq_toList {isDirect : Prop} (h : isDirect) {first? : Option Received}
    {trail : List Received} (htrail : IsTrailOf isDirect first? trail) :
    trail = first?.toList := by
  cases first? with
  | none => exact htrail
  | some first =>
      obtain ⟨more, rfl, -, hdirect⟩ := htrail
      rw [hdirect h, Option.toList_some]

/-- Exactly the requests that are taken arrive and are sent on, after all that arrived before. -/
theorem exists_received_send (net : Network) (request : Request) (query : List (String × String))
    (timeout : Nat) :
    ∃ trail, (net.send request query timeout).2.received = net.received ++ trail ∧
      IsTrailOf net.IsDirect
        (if net.Takes request query then some (sent request query) else none) trail := by
  cases htakes : net.Takes request query with
  | true =>
      by_cases hdirect : net.IsDirect
      · refine ⟨[sent request query], ?_, [], rfl, nofun, fun _ => rfl⟩
        rw [send_of_isDirect hdirect htakes, deliver_received]
      · obtain ⟨hsend, htransmit⟩ := send_of_takes htakes timeout
        obtain ⟨more, hmore, hall⟩ :=
          exists_received_follow net (request.complete query) timeout mostRedirects
        have hreceive : receive (request.complete query) = sent request query :=
          receive_eq_sent request query
        rw [hreceive] at hall
        refine ⟨sent request query :: more, ?_, more, rfl, hall, fun h => absurd h hdirect⟩
        rw [hsend, hmore, htransmit, deliver_received, List.append_assoc, List.singleton_append]
  | false =>
      obtain ⟨failure, longer, hsend⟩ := send_of_not_takes htakes timeout
      refine ⟨[], ?_, rfl⟩
      rw [hsend net rfl, List.append_nil]

end Network
end CertCatalog.Http
