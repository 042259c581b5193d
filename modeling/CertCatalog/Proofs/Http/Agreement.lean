import CertCatalog.Proofs.Http.Network

/-!
# Networks that answer alike

What decides on the reply to a request where no reply leads anywhere else: the routes of the network
and the URL, but neither the token nor what else has arrived before.
-/

namespace CertCatalog.Http
namespace Network

/-! ## Networks that are read alike -/

def isReading (route : Route) : Bool :=
  route.method == Method.get.name

/-- Both networks answer readings alike; what else they answer and what has arrived may differ. -/
structure SameReads (net other : Network) : Prop where
  isReachable : net.isReachable = other.isReachable
  routes : net.routes.filter isReading = other.routes.filter isReading
  isDirect : net.IsDirect
  otherDirect : other.IsDirect

theorem SameReads.refl {net : Network} (h : net.IsDirect) : SameReads net net := ⟨rfl, rfl, h, h⟩

theorem SameReads.symm {net other : Network} (h : SameReads net other) : SameReads other net :=
  ⟨h.isReachable.symm, h.routes.symm, h.otherDirect, h.isDirect⟩

theorem SameReads.trans {net middle other : Network} (h : SameReads net middle)
    (hnext : SameReads middle other) : SameReads net other :=
  ⟨h.isReachable.trans hnext.isReachable, h.routes.trans hnext.routes, h.isDirect,
    hnext.otherDirect⟩

theorem filter_used (p : Route → Bool) (routes : List Route) (route : Route) :
    (used routes route).filter p = used (routes.filter p) route := by
  unfold used
  split
  · exact List.erase_filter.symm
  · rfl

theorem filter_used_of_not {p : Route → Bool} {route : Route} (hnot : p route = false)
    (routes : List Route) : (used routes route).filter p = routes.filter p := by
  have hother : route ∉ routes.filter p := by
    intro hmem
    rw [(List.mem_filter.mp hmem).2] at hnot
    cases hnot
  rw [filter_used, used, List.erase_of_not_mem hother, ite_self]

theorem find?_answers_filter {p : Route → Bool} {request : Received}
    (hp : ∀ route : Route, route.answers request = true → p route = true) (routes : List Route) :
    routes.find? (·.answers request) = (routes.filter p).find? (·.answers request) := by
  rw [List.find?_filter]
  congr 1
  funext route
  cases hanswers : route.answers request with
  | false => simp
  | true => simp [hp route hanswers]

theorem isReading_of_answers {request : Received} (hget : request.method = Method.get.name)
    (route : Route) (hanswers : route.answers request = true) : isReading route = true := by
  simp only [Route.answers, Bool.and_eq_true, hget] at hanswers
  exact hanswers.1

theorem SameReads.deliver {net other : Network} (h : SameReads net other)
    {request like : Received} (hget : request.method = Method.get.name)
    (hmethod : request.method = like.method) (hurl : request.url = like.url) (timeout : Nat) :
    (net.deliver request timeout).1 = (other.deliver like timeout).1 ∧
      SameReads (net.deliver request timeout).2 (other.deliver like timeout).2 := by
  have hanswers : (fun route : Route => route.answers request) = (·.answers like) := by
    funext route
    simp only [Route.answers, hmethod, hurl]
  have hfind : net.routes.find? (·.answers request) = other.routes.find? (·.answers like) := by
    rw [find?_answers_filter (isReading_of_answers hget), h.routes, hanswers]
    exact (find?_answers_filter (isReading_of_answers (hmethod ▸ hget)) _).symm
  have hsame : (net.deliver request timeout).1 = (other.deliver like timeout).1 ∧
      (net.deliver request timeout).2.routes.filter isReading =
        (other.deliver like timeout).2.routes.filter isReading := by
    unfold Network.deliver
    dsimp only
    rw [hfind]
    split
    · exact ⟨rfl, h.routes⟩
    · next route hroute =>
        have hused : (used net.routes route).filter isReading =
            (used other.routes route).filter isReading := by
          rw [filter_used, filter_used, h.routes]
        split
        · exact ⟨rfl, hused⟩
        · exact ⟨rfl, hused⟩
  exact ⟨hsame.1,
    { isReachable := by rw [deliver_isReachable, deliver_isReachable, h.isReachable]
      routes := hsame.2
      isDirect := h.isDirect.deliver request timeout
      otherDirect := h.otherDirect.deliver like timeout }⟩

theorem SameReads.send {net other : Network} (h : SameReads net other) {request like : Request}
    (hget : request.method = .get) (hmethod : request.method = like.method)
    (hurl : request.url = like.url)
    (htoken : request.token.all Request.isLegalToken = like.token.all Request.isLegalToken)
    (query : List (String × String)) (timeout : Nat) :
    (net.send request query timeout).1 = (other.send like query timeout).1 ∧
      SameReads (net.send request query timeout).2 (other.send like query timeout).2 := by
  have hurls : (sent request query).url = (sent like query).url := by
    simp only [sent, hurl]
  have hget' : (sent request query).method = Method.get.name := congrArg Method.name hget
  have hmethods : (sent request query).method = (sent like query).method :=
    congrArg Method.name hmethod
  have hcomplete : (request.complete query).url = (like.complete query).url := by
    simp only [Request.complete, hurl]
  obtain ⟨hreply, hreads⟩ := h.deliver hget' hmethods hurls timeout
  rw [send_eq, send_eq, h.isDirect.follow_eq, h.otherDirect.follow_eq, transmit_complete,
    transmit_complete, hcomplete, hurl, htoken, h.isReachable]
  split
  · exact ⟨rfl, h⟩
  split
  · exact ⟨rfl, h⟩
  split
  · exact ⟨rfl, h⟩
  split
  · exact ⟨rfl, rfl, h.routes, h.isDirect, h.otherDirect⟩
  · exact ⟨congrArg (outcomeOf _) hreply, hreads⟩

theorem sameReads_deliver {request : Received} (hmethod : request.method ≠ Method.get.name)
    {net : Network} (h : net.IsDirect) (timeout : Nat) :
    SameReads net (net.deliver request timeout).2 where
  isReachable := (deliver_isReachable net request timeout).symm
  routes := by
    unfold Network.deliver
    dsimp only
    split
    · rfl
    · next route hroute =>
        have hanswers := List.find?_some hroute
        have hother : isReading route = false := by
          simp only [Route.answers, Bool.and_eq_true, beq_iff_eq] at hanswers
          simpa only [isReading, beq_eq_false_iff_ne, hanswers.1] using hmethod
        have hused := filter_used_of_not hother net.routes
        split <;> exact hused.symm
  isDirect := h
  otherDirect := h.deliver request timeout

theorem sameReads_send {request : Request} (hmethod : request.method ≠ .get) {net : Network}
    (h : net.IsDirect) (query : List (String × String)) (timeout : Nat) :
    SameReads net (net.send request query timeout).2 := by
  cases htakes : net.Takes request query with
  | true =>
      rw [send_of_isDirect h htakes]
      refine sameReads_deliver (fun hname => hmethod ?_) h timeout
      cases hfound : request.method with
      | get => rfl
      | post => simp [sent, hfound, Method.name] at hname
  | false =>
      obtain ⟨failure, longer, hsend⟩ := send_of_not_takes htakes timeout
      rw [hsend net rfl]
      exact ⟨rfl, rfl, h, h⟩

/-! ## Networks that differ at some places -/

/-- Both networks answer alike but at hidden places, and one has kept its callers waiting longer. -/
structure SameApartFrom (hidden : String → Bool) (longer : Nat) (net other : Network) : Prop where
  isReachable : net.isReachable = other.isReachable
  routes : net.routes.filter (!hidden ·.url) = other.routes.filter (!hidden ·.url)
  waited : other.waited = net.waited + longer
  isDirect : net.IsDirect
  otherDirect : other.IsDirect

variable {hidden : String → Bool}

theorem SameApartFrom.refl {net : Network} (h : net.IsDirect) : SameApartFrom hidden 0 net net :=
  ⟨rfl, rfl, rfl, h, h⟩

theorem SameApartFrom.trans {net middle other : Network} {longer more : Nat}
    (h : SameApartFrom hidden longer net middle) (hnext : SameApartFrom hidden more middle other) :
    SameApartFrom hidden (longer + more) net other :=
  ⟨h.isReachable.trans hnext.isReachable, h.routes.trans hnext.routes, by
    rw [hnext.waited, h.waited, Nat.add_assoc], h.isDirect, hnext.otherDirect⟩

theorem SameApartFrom.deliver {net other : Network} {longer : Nat}
    (h : SameApartFrom hidden longer net other) {request : Received}
    (hseen : hidden request.url = false) (timeout : Nat) :
    (net.deliver request timeout).1 = (other.deliver request timeout).1 ∧
      SameApartFrom hidden longer (net.deliver request timeout).2
        (other.deliver request timeout).2 := by
  have hroute : ∀ route : Route, route.answers request = true → (!hidden route.url) = true := by
    intro route hanswers
    simp only [Route.answers, Bool.and_eq_true, beq_iff_eq] at hanswers
    rw [hanswers.2, hseen]
    rfl
  have hfind : net.routes.find? (·.answers request) = other.routes.find? (·.answers request) := by
    rw [find?_answers_filter hroute, h.routes, ← find?_answers_filter hroute]
  have hwaited := h.waited
  have hsame : (net.deliver request timeout).1 = (other.deliver request timeout).1 ∧
      (net.deliver request timeout).2.routes.filter (!hidden ·.url) =
        (other.deliver request timeout).2.routes.filter (!hidden ·.url) ∧
      (other.deliver request timeout).2.waited =
        (net.deliver request timeout).2.waited + longer := by
    unfold Network.deliver
    dsimp only
    rw [hfind]
    split
    · exact ⟨rfl, h.routes, by dsimp only; omega⟩
    · next route _ =>
        have hused : (used net.routes route).filter (!hidden ·.url) =
            (used other.routes route).filter (!hidden ·.url) := by
          rw [filter_used, filter_used, h.routes]
        split
        · exact ⟨rfl, hused, by dsimp only; omega⟩
        · exact ⟨rfl, hused, by dsimp only; omega⟩
  exact ⟨hsame.1,
    { isReachable := by rw [deliver_isReachable, deliver_isReachable, h.isReachable]
      routes := hsame.2.1
      waited := hsame.2.2
      isDirect := h.isDirect.deliver request timeout
      otherDirect := h.otherDirect.deliver request timeout }⟩

theorem isPlainHttp_of_takes {net : Network} {request : Request} {query : List (String × String)}
    (htakes : net.Takes request query = true) : isPlainHttp request.url = true := by
  simp only [Takes, Bool.and_eq_true] at htakes
  exact htakes.1.1.1

theorem SameApartFrom.send {net other : Network} {longer : Nat}
    (h : SameApartFrom hidden longer net other) {request : Request}
    {query : List (String × String)}
    (hseen : isPlainHttp request.url = true → hidden (sent request query).url = false)
    (timeout : Nat) :
    (net.send request query timeout).1 = (other.send request query timeout).1 ∧
      SameApartFrom hidden longer (net.send request query timeout).2
        (other.send request query timeout).2 := by
  have htakes : net.Takes request query = other.Takes request query := by
    rw [Takes, Takes, h.isReachable]
  cases hother : other.Takes request query with
  | true =>
      rw [hother] at htakes
      obtain ⟨hreply, hafter⟩ := h.deliver (hseen (isPlainHttp_of_takes hother)) timeout
      rw [send_of_isDirect h.isDirect htakes, send_of_isDirect h.otherDirect hother, hreply]
      exact ⟨rfl, hafter⟩
  | false =>
      obtain ⟨failure, more, hsend⟩ := send_of_not_takes hother timeout
      have hwaited := h.waited
      rw [hsend net h.isReachable, hsend other rfl]
      exact ⟨rfl, h.isReachable, h.routes, by dsimp only; omega, h.isDirect, h.otherDirect⟩

theorem sameApartFrom_send {request : Request} {query : List (String × String)}
    (hhidden : isPlainHttp request.url = true → hidden (sent request query).url = true)
    {net : Network} (h : net.IsDirect) (timeout : Nat) :
    ∃ longer, SameApartFrom hidden longer net (net.send request query timeout).2 := by
  cases htakes : net.Takes request query with
  | true =>
      rw [send_of_isDirect h htakes]
      unfold Network.deliver
      dsimp only
      split
      · exact ⟨1, rfl, rfl, rfl, h, h⟩
      · next route hroute =>
          have hanswers := List.find?_some hroute
          simp only [Route.answers, Bool.and_eq_true, beq_iff_eq] at hanswers
          have hused : (used net.routes route).filter (!hidden ·.url) =
              net.routes.filter (!hidden ·.url) :=
            filter_used_of_not (by rw [hanswers.2, hhidden (isPlainHttp_of_takes htakes)]; rfl)
              net.routes
          have hother : ∀ kept ∈ used net.routes route, kept.reply.leadsOn = false :=
            fun kept hmem => h kept (used_subset _ _ hmem)
          split
          · exact ⟨_, rfl, hused.symm, Nat.add_assoc .., h, hother⟩
          · exact ⟨_, rfl, hused.symm, Nat.add_assoc .., h, hother⟩
  | false =>
      obtain ⟨failure, longer, hsend⟩ := send_of_not_takes htakes timeout
      rw [hsend net rfl]
      exact ⟨longer, rfl, rfl, rfl, h, h⟩

end Network
end CertCatalog.Http
