import CertCatalog.Proofs.Bytes.Utf8
import CertCatalog.Proofs.CertificateId
import CertCatalog.Proofs.Json.ReadBack
import CertCatalog.Proofs.Json.Records
import CertCatalog.Proofs.Vault.Listing
import CertCatalog.Proofs.Vault.LongRequests
import CertCatalog.Proofs.Vault.Rendering
import CertCatalog.Proofs.Vault.Servers

/-!
# Reading over HTTP

A client that reads from a server over HTTP cannot tell it from a server in memory whose state it
shows, as long as no URL is too long.
-/

namespace CertCatalog

open CertCatalog.Text CertCatalog.Bytes CertCatalog.Url

variable {b : MemoryBackend} {base : Url} {net : Http.Network}

/-! ## The server -/

theorem MemoryBackend.exists_shown_of_holds {reading : Reading} (hholds : b.Holds reading) :
    ∃ json, b.shown? reading = some json := by
  cases reading with
  | serials mount => exact ⟨_, rfl⟩
  | revoked mount => exact ⟨_, rfl⟩
  | record mount serial =>
      obtain ⟨pem, hpem⟩ := Option.isSome_iff_exists.mp hholds
      exact ⟨_, congrArg (Option.map _) hpem⟩

namespace Http.Network

theorem Shows.of_eq {after : Http.Network} (h : net.Shows base b)
    (hreachable : after.isReachable = net.isReachable) (hroutes : after.routes = net.routes) :
    after.Shows base b where
  isReachable := hreachable.trans h.isReachable
  sound := hroutes ▸ h.sound
  complete := hroutes ▸ h.complete

theorem Shows.isDirect (h : net.Shows base b) : net.IsDirect := by
  intro route hroute
  obtain ⟨_, _, -, -, rfl⟩ := h.sound route hroute
  rfl

/-- The reply of a server that shows a state: what is there, or that nothing is there. -/
def IsReplyFor (b : MemoryBackend) (reading : Reading) (reply : Reply) : Prop :=
  (∃ json, b.shown? reading = some json ∧
    reply = { status := 200, body := some (utf8 json.compact) }) ∨
  (¬b.Holds reading ∧ reply = noRoute)

theorem Shows.deliver (h : net.Shows base b) (hauthority : base.authority.isSome = true)
    {reading : Reading} (hplain : reading.IsPlain) {request : Received}
    (hmethod : request.method = "GET") (hurl : request.url = reading.url base) (timeout : Nat) :
    ∃ reply, (net.deliver request timeout).1 = some reply ∧ IsReplyFor b reading reply ∧
      (net.deliver request timeout).2.Shows base b := by
  obtain ⟨a, ha⟩ := Option.isSome_iff_exists.mp hauthority
  unfold Network.deliver
  dsimp only
  cases hfind : net.routes.find? (·.answers request) with
  | none =>
      refine ⟨noRoute, rfl, .inr ⟨fun hholds => ?_, rfl⟩, h.of_eq rfl rfl⟩
      obtain ⟨json, hjson⟩ := MemoryBackend.exists_shown_of_holds hholds
      have hroute := List.find?_eq_none.mp hfind _ (h.complete reading json hplain hholds hjson)
      simp [Route.answers, Reading.route, hmethod, hurl] at hroute
  | some route =>
      obtain ⟨found, json, -, hjson, rfl⟩ := h.sound route (List.mem_of_find?_eq_some hfind)
      have hanswers := List.find?_some hfind
      simp only [Route.answers, Reading.route, Bool.and_eq_true, beq_iff_eq] at hanswers
      obtain rfl : found = reading :=
        Reading.url_injective ha (hanswers.2.trans hurl)
      refine ⟨_, rfl, .inl ⟨json, hjson, rfl⟩, h.of_eq rfl rfl⟩

end Http.Network

/-! ## Bodies that are read -/

theorem Json.record?_singleton (name : String) (value : Json) :
    (Json.ofFields [(name, value)]).record? [name] = some [some value] := by
  simp [Json.ofFields, Json.record?, Json.namedFields?, Json.uniqueField?]

namespace Remote

theorem data?_dataOf {α : Type} (read : Json → Option α) (field : String) (value : Json) :
    data? read (dataOf field value) = read (.ofFields [(field, value)]) := by
  simp [data?, dataOf, Json.record?_singleton, Json.required?]

theorem data?_keys (keys : List String) :
    data? keys? (dataOf "keys" (.strings keys)) = some keys := by
  rw [data?_dataOf]
  simp [keys?, Json.record?_singleton, Json.orElse?, Json.list?_text?_eq_some_iff]

theorem data?_certificate (pem : String) :
    data? certificate? (dataOf "certificate" (.str pem)) = some pem := by
  rw [data?_dataOf]
  simp [certificate?, Json.record?_singleton, Json.orElse?, Json.text?, Json.str]

theorem isWritable_dataOf {field : String} {value : Json} (hvalue : value.isWritable = true) :
    (dataOf field value).isWritable = true := by
  simp [dataOf, Json.ofFields, Json.isWritable, Json.isWritable.fieldsWritable, hvalue]

theorem readBody_compact {α : Type} {read : Json → Option α} {json : Json} {value : α}
    (hjson : json.isWritable = true) (hread : read json = some value) (path : String) :
    readBody read { status := 200, body := some (utf8 json.compact) } path = .ok value := by
  have hbody : ((some (utf8 json.compact)).bind Json.ofBytes?).bind read = some value := by
    simp [Json.ofBytes?_compact hjson, hread]
  simp only [readBody, hbody]
  rfl

/-! ## Requests that are answered -/

theorem isSpecial_of_isPlainHttp {url : Url} (hhttp : Http.isPlainHttp url = true) :
    url.isSpecial = true := by
  simp only [Http.isPlainHttp, Bool.and_eq_true, beq_iff_eq] at hhttp
  rw [Url.isSpecial, hhttp.1]
  decide

theorem dropWhile_slash_eq_self {text : List Char} (hhead : ∀ c ∈ text.head?, c ≠ '/') :
    text.dropWhile (· == '/') = text := by
  cases text with
  | nil => rfl
  | cons c rest => rw [List.dropWhile_cons_of_neg (by simpa using hhead c rfl)]

theorem belowMount_of_isPlainMount {mount : String} (hplain : IsPlainMount mount)
    (segments : List String) : belowMount mount segments = splitOn mount '/' ++ segments := by
  have hparts : "" ∉ splitOn mount '/' := fun hmem => absurd (hplain "" hmem).1 (by decide)
  obtain ⟨hhead, hlast⟩ := ne_separator_of_splitOn hparts
  rw [← List.head?_reverse] at hlast
  rw [belowMount, trimSlashes, dropWhile_slash_eq_self hhead, dropWhile_slash_eq_self hlast,
    List.reverse_reverse, String.ofList_toList]

theorem endpoint_of_isPlain {r : Remote} (hhttp : Http.isPlainHttp r.base = true)
    (hpath : ∃ steps, r.base.path = .segments steps) {reading : Reading}
    (hplain : reading.IsPlain) :
    r.endpoint reading.steps = .ok (r.base.placeBelow reading.steps) := by
  obtain ⟨steps, hpath⟩ := hpath
  have hall : reading.steps.all isStep = true :=
    List.all_eq_true.mpr fun step hmem => (hplain step hmem).1
  have hok : r.endpoint reading.steps = .ok (r.base.extend ("v1" :: reading.steps)) := if_pos hall
  obtain ⟨hsteps, hurl⟩ := endpoint_eq_ok hpath hok
  have hunbroken : ∀ step ∈ reading.steps, isUnbroken step = true :=
    fun step hmem => (hplain step hmem).2
  have hencoded : reading.steps.map (encodedSegment true) = reading.steps.map encodedStep := by
    apply List.map_congr_left
    intro step hmem
    have hkept : step.toList.filter isKept = step.toList :=
      List.filter_eq_self.mpr (List.all_eq_true.mp (hunbroken step hmem))
    rw [encodedSegment, encodedStep, hkept]
    rfl
  rw [hok, hurl, path_of_isUnbroken hsteps hunbroken, isSpecial_of_isPlainHttp hhttp, hencoded]
  simp only [Url.placeBelow, Url.baseSteps, hpath]

/-- A remote whose requests reach a server as soon as the network does. -/
structure IsPlain (r : Remote) : Prop where
  path : ∃ steps, r.base.path = .segments steps
  http : Http.isPlainHttp r.base = true
  token : Http.Request.isLegalToken r.token = true

theorem IsPlain.hasAuthority {r : Remote} (hr : r.IsPlain) : r.base.authority.isSome = true := by
  have hhttp := hr.http
  cases hauthority : r.base.authority with
  | none => simp [Http.isPlainHttp, hauthority] at hhttp
  | some a => rfl

variable {r : Remote}

open CertCatalog.Http.Network (IsReplyFor)

theorem get_of_shows (hr : r.IsPlain) (hnet : net.Shows r.base b) {reading : Reading}
    (hplain : reading.IsPlain) (hfits : reading.Fits r.base) :
    ∃ reply path after, r.get reading.steps reading.query net = (.ok (reply, path), after) ∧
      IsReplyFor b reading reply ∧ after.Shows r.base b := by
  let request : Http.Request :=
    { method := .get, url := r.base.placeBelow reading.steps, token := some r.token, body := none }
  have htakes : net.Takes request reading.query = true := by
    have hhttp : Http.isPlainHttp request.url = true := hr.http
    have hshort : Http.Request.isShort (Http.fullUrl request.url reading.query) = true := hfits
    simp [Http.Network.Takes, hhttp, hshort, request, hr.token, hnet.isReachable]
  have hmethod : (Http.sent request reading.query).method = "GET" := rfl
  have hurl : (Http.sent request reading.query).url = reading.url r.base := rfl
  obtain ⟨reply, hreply, hshown, hafter⟩ :=
    hnet.deliver hr.hasAuthority hplain hmethod hurl r.timeout
  have hsend : r.send request reading.query net =
      (.ok reply, (net.deliver (Http.sent request reading.query) r.timeout).2) := by
    rw [send, Http.Network.send_of_isDirect hnet.isDirect htakes, hreply]
    rfl
  refine ⟨reply, request.url.path.text, _, ?_, hshown, hafter⟩
  rw [get, endpoint_of_isPlain hr.http hr.path hplain]
  exact (Action.bind_of_ok rfl).trans (Action.bind_of_ok hsend)

theorem listKeys_of_shows (hr : r.IsPlain) (hnet : net.Shows r.base b) {reading : Reading}
    (hplain : reading.IsPlain) (hfits : reading.Fits r.base)
    (hquery : reading.query = [("list", "true")]) {keys : List String}
    (hshown : b.shown? reading = some (dataOf "keys" (.strings keys)))
    (hempty : ¬b.Holds reading → keys = []) :
    (r.listKeys reading.steps net).1 = .ok keys ∧
      (r.listKeys reading.steps net).2.Shows r.base b := by
  obtain ⟨reply, path, after, hget, hreply, hafter⟩ := get_of_shows hr hnet hplain hfits
  rw [hquery] at hget
  have hlist : r.listKeys reading.steps net = (.ok keys, after) := by
    refine (Action.bind_of_ok hget).trans ?_
    rcases hreply with ⟨json, hjson, rfl⟩ | ⟨hnone, rfl⟩
    · obtain rfl := Option.some.inj (hshown.symm.trans hjson)
      have hbody := readBody_compact (isWritable_dataOf (Json.isWritable_strings keys))
        (data?_keys keys)
        path
      exact congrArg (·, after) hbody
    · rw [hempty hnone]
      rfl
  rw [hlist]
  exact ⟨rfl, hafter⟩

theorem listSerials_of_shows (hr : r.IsPlain) (hnet : net.Shows r.base b) {mount : String}
    (hmount : IsPlainMount mount) (hfits : (Reading.serials mount).Fits r.base) :
    (r.server.listSerials mount net).1 = .ok (b.serialsOf mount) ∧
      (r.server.listSerials mount net).2.Shows r.base b := by
  have hplace : belowMount mount ["certs"] = (Reading.serials mount).steps :=
    belowMount_of_isPlainMount hmount _
  have hkeys := listKeys_of_shows hr hnet (Reading.isPlain_serials_iff.mpr hmount) hfits rfl rfl
    fun hnone => not_not.mp hnone
  rwa [← hplace] at hkeys

theorem listRevoked_of_shows (hr : r.IsPlain) (hnet : net.Shows r.base b) {mount : String}
    (hmount : IsPlainMount mount) (hfits : (Reading.revoked mount).Fits r.base) :
    (r.server.listRevoked mount net).1 = .ok (b.revokedOf mount) ∧
      (r.server.listRevoked mount net).2.Shows r.base b := by
  have hplace : belowMount mount ["certs", "revoked"] = (Reading.revoked mount).steps :=
    belowMount_of_isPlainMount hmount _
  have hkeys := listKeys_of_shows hr hnet (Reading.isPlain_revoked_iff.mpr hmount) hfits rfl rfl
    fun hnone => not_not.mp hnone
  rwa [← hplace] at hkeys

theorem readRecord_of_shows (hr : r.IsPlain) (hnet : net.Shows r.base b)
    (hpems : ∀ record ∈ b.records, isAllBlank record.pem = false) {mount serial : String}
    (hplain : (Reading.record mount serial).IsPlain)
    (hfits : (Reading.record mount serial).Fits r.base) :
    (r.readRecord mount serial net).1 = .ok (b.pem? mount serial) ∧
      (r.readRecord mount serial net).2.Shows r.base b := by
  obtain ⟨reply, path, after, hget, hreply, hafter⟩ := get_of_shows hr hnet hplain hfits
  have hmount := (Reading.isPlain_record_iff.mp hplain).1
  have hplace : belowMount mount ["cert", serial] = (Reading.record mount serial).steps :=
    belowMount_of_isPlainMount hmount _
  have hread : r.readRecord mount serial net = (.ok (b.pem? mount serial), after) := by
    rw [readRecord, hplace]
    refine (Action.bind_of_ok hget).trans ?_
    rcases hreply with ⟨json, hjson, rfl⟩ | ⟨hnone, rfl⟩
    · obtain ⟨pem, hpem, rfl⟩ := Option.map_eq_some_iff.mp hjson
      have hbody := readBody_compact (isWritable_dataOf (show (Json.str pem).isWritable = true
        from rfl)) (data?_certificate pem) path
      have hblank : isAllBlank pem = false := by
        obtain ⟨record, hfind, rfl⟩ := Option.map_eq_some_iff.mp hpem
        exact hpems record (List.mem_of_find?_eq_some hfind)
      have hanswer : Action.answer (readBody (data? certificate?)
          { status := 200, body := some (utf8 (dataOf "certificate" (.str pem)).compact) } path)
          after = (.ok pem, after) := congrArg (·, after) hbody
      refine (Action.bind_of_ok hanswer).trans ?_
      rw [hblank, hpem]
      rfl
    · have hmissing : b.pem? mount serial = none := by
        simpa [MemoryBackend.Holds] using hnone
      rw [hmissing]
      rfl
  rw [hread]
  exact ⟨rfl, hafter⟩

end Remote

/-! ## The two servers -/

/-- The state as it was at the start, call counts apart, and a network that shows it. -/
def ShownBy (b : MemoryBackend) (base : Url) (current : MemoryBackend) (net : Http.Network) :
    Prop :=
  b.SameContents current ∧ net.Shows base b

theorem agree_of_read {α : Type} {first : Action MemoryBackend α} {second : Action Http.Network α}
    {value : α} (hfirst : ∀ current, b.SameContents current →
      (first current).1 = .ok value ∧ b.SameContents (first current).2)
    (hsecond : ∀ net : Http.Network, net.Shows base b →
      (second net).1 = .ok value ∧ (second net).2.Shows base b) :
    Action.Agree (ShownBy b base) first second := by
  rintro current net ⟨hsame, hshows⟩
  obtain ⟨hvalue, hcontents⟩ := hfirst current hsame
  obtain ⟨hother, hafter⟩ := hsecond net hshows
  exact ⟨hvalue.trans hother.symm, hcontents, hafter⟩

theorem answerOf_of_sameContents {current : MemoryBackend} (hsame : b.SameContents current)
    (hworks : ∀ mount, b.failure? mount = none) {α : Type} (mount : String) (value : α) :
    current.answerOf mount value = .ok value := by
  rw [MemoryBackend.answerOf, ← hsame.failure?_eq, hworks]

def Reading.IsServed (base : Url) (reading : Reading) : Prop :=
  reading.IsPlain ∧ reading.Fits base

structure IsServedMount (base : Url) (mount : String) : Prop where
  plain : IsPlainMount mount
  serials : (Reading.serials mount).Fits base
  revoked : (Reading.revoked mount).Fits base

/-- At places that can be asked for the server over HTTP reads what is in memory. -/
theorem readsAgree_of_shows {r : Remote} (hr : r.IsPlain)
    (hworks : ∀ mount, b.failure? mount = none) {isMount : String → Prop}
    (hmounts : ∀ mount, isMount mount → IsServedMount r.base mount)
    (hstored : ∀ record ∈ b.records, isMount record.mount →
      (Reading.record record.mount record.serial).IsServed r.base)
    (hpems : ∀ record ∈ b.records, isAllBlank record.pem = false) :
    Server.ReadsAgree (ShownBy b r.base) isMount
      (fun mount serial => (Reading.record mount serial).IsServed r.base) MemoryBackend.server
      r.server where
  listSerials mount hmount :=
    agree_of_read (fun current hsame => by
        rw [MemoryBackend.listSerials_apply, answerOf_of_sameContents hsame hworks,
          ← hsame.serialsOf_eq]
        exact ⟨rfl, hsame.trans (.countListing current)⟩)
      fun net hnet =>
        Remote.listSerials_of_shows hr hnet (hmounts mount hmount).plain
          (hmounts mount hmount).serials
  listRevoked mount hmount :=
    agree_of_read (fun current hsame => by
        rw [MemoryBackend.listRevoked_apply, answerOf_of_sameContents hsame hworks,
          ← hsame.revokedOf_eq]
        exact ⟨rfl, hsame.trans (.countRevokedListing current)⟩)
      fun net hnet =>
        Remote.listRevoked_of_shows hr hnet (hmounts mount hmount).plain
          (hmounts mount hmount).revoked
  readRecord mount serial hserved :=
    agree_of_read (fun current hsame => by
        rw [MemoryBackend.readRecord_apply, answerOf_of_sameContents hsame hworks,
          ← hsame.pem?_eq]
        exact ⟨rfl, hsame.trans (.countRead current)⟩)
      fun net hnet => Remote.readRecord_of_shows hr hnet hpems hserved.1 hserved.2
  isPlace_of_listed mount current net serials hmount hst hserials serial hmem := by
    obtain ⟨hsame, -⟩ := hst
    rw [MemoryBackend.listSerials_apply, answerOf_of_sameContents hsame hworks,
      ← hsame.serialsOf_eq] at hserials
    obtain rfl := Except.ok.inj hserials
    obtain ⟨record, hrecord, rfl, rfl⟩ := MemoryBackend.exists_record_of_mem_serialsOf hmem
    exact hstored record hrecord hmount

/-! ## A client over HTTP -/

namespace VaultClient

theorem isPlain_of_resolve {mounts : List String} (hmounts : ∀ mount ∈ mounts, IsPlainMount mount)
    {id : String} (hid : isUnbroken id = true) {mount serial : String}
    (hplace : CertificateId.resolve mounts id = .ok (mount, serial)) :
    mount ∈ mounts ∧ (Reading.record mount serial).IsPlain := by
  have hmem := CertificateId.mem_of_resolve hplace
  have hserial := (CertificateId.resolve_eq_ok hplace).1
  refine ⟨hmem, Reading.isPlain_record_iff.mpr ⟨hmounts mount hmem, ?_, ?_⟩⟩
  · simp only [CertificateId.isSerial, Bool.and_eq_true] at hserial
    simp only [Remote.isStep, Bool.and_eq_true]
    exact ⟨⟨hserial.1.1.1, hserial.1.2⟩, hserial.2⟩
  · exact List.all_eq_true.mpr fun c hc =>
      List.all_eq_true.mp hid c (CertificateId.mem_of_mem_serial hplace hc)

/--
Where a server over HTTP shows the state of a server in memory, a client of the one answers every
listing and every reading of a single certificate as the same client of the other does, with the
same values and the same errors, and it keeps the same in its cache.  Mounts, serials and ids may
hold whatever can stand in a path, but no URL that is asked for may be too long; the mounts have to
work, and no record may be blank.
-/
theorem remote_reads_like_memory {address : String} {token : Secret} {trust : TrustOptions}
    {timeout : Nat} {r : Remote} (hr : Remote.ofAddress address token trust timeout = .ok r)
    (hhttp : Http.isPlainHttp r.base = true) (htoken : Http.Request.isLegalToken token = true)
    {b : MemoryBackend} (hworks : ∀ mount, b.failure? mount = none)
    (hstored : ∀ record ∈ b.records, IsPlainMount record.mount ∧
      Remote.isStep record.serial = true ∧ isUnbroken record.serial = true)
    (hpems : ∀ record ∈ b.records, isAllBlank record.pem = false)
    {net : Http.Network} (hnet : net.Shows r.base b) {v : VaultClient}
    (hmounts : ∀ mount ∈ v.mounts, IsServedMount r.base mount)
    (hfits : ∀ record ∈ b.records, record.mount ∈ v.mounts →
      (Reading.record record.mount record.serial).Fits r.base)
    {steps : List (Nat × ClientStep)}
    (hsteps : ∀ timed ∈ steps, timed.2.isReading = true ∧
      ∀ id, timed.2.readId? = some id → isUnbroken id = true ∧
        ∀ mount serial, CertificateId.resolve v.mounts id = .ok (mount, serial) →
          (Reading.record mount serial).Fits r.base) :
    (runSteps r.server steps (v, net)).1 = (runSteps MemoryBackend.server steps (v, b)).1 ∧
      (runSteps r.server steps (v, net)).2.1 = (runSteps MemoryBackend.server steps (v, b)).2.1 := by
  have hplain : r.IsPlain :=
    { path := Remote.exists_segments_of_ofAddress hr
      http := hhttp
      token := Remote.token_of_ofAddress hr ▸ htoken }
  have hagree := readsAgree_of_shows hplain hworks hmounts
    (fun record hrecord hmount =>
      ⟨Reading.isPlain_record_iff.mpr (hstored record hrecord), hfits record hrecord hmount⟩) hpems
  obtain ⟨hanswers, hclient, -⟩ := agree_runSteps hagree (fun _ hmount => hmount)
    (fun timed htimed => by
      obtain ⟨hreading, hids⟩ := hsteps timed htimed
      refine ⟨hreading, fun id hid mount serial hplace => ?_⟩
      obtain ⟨hunbroken, hshort⟩ := hids id hid
      obtain ⟨hmount, hrecord⟩ :=
        isPlain_of_resolve (fun mount hmount => (hmounts mount hmount).plain) hunbroken hplace
      exact ⟨hmount, hrecord, hshort mount serial hplace⟩)
    (show ShownBy b r.base b net from ⟨.refl b, hnet⟩)
  exact ⟨hanswers.symm, hclient.symm⟩

/-- One record below a nested mount, with a serial that is not spelled alike in a URL. -/
def shownSample : MemoryBackend := sampleServer [("team/pki", "0a é")]

def sampleReads : List (Nat × ClientStep) :=
  [(0, .list), (1, .details "team/pki:0a é"), (2, .pem "0b")]

def sampleReader : VaultClient := .start "v" ["team/pki"] 60000 none

theorem remote_reads_like_memory_of_sample :
    (shownSample.routes Remote.sampleBase).map (·.url) =
        ["http://127.0.0.1:8200/vault/v1/team/pki/certs?list=true",
          "http://127.0.0.1:8200/vault/v1/team/pki/cert/0a%20%C3%A9"] ∧
      (runSteps MemoryBackend.server sampleReads (sampleReader, shownSample)).1.head? =
        some (.certificates (.ok [sampleCertificate "team/pki:0a é"])) ∧
      (runSteps Remote.sampleRemote.server sampleReads
          (sampleReader, .ofRoutes true (shownSample.routes Remote.sampleBase))).1 =
        (runSteps MemoryBackend.server sampleReads (sampleReader, shownSample)).1 := by
  have hr : Remote.ofAddress "http://127.0.0.1:8200/vault/" ⟨"r"⟩
      { skipVerification := false, bundle := none } 5000 = .ok Remote.sampleRemote := by
    decide +kernel
  have hmounts : ∀ mount ∈ sampleReader.mounts, IsServedMount Remote.sampleBase mount := by
    intro mount hmount
    obtain rfl := List.mem_singleton.mp hmount
    exact ⟨by decide +kernel, by decide +kernel, by decide +kernel⟩
  have hsteps : ∀ timed ∈ sampleReads, timed.2.isReading = true ∧
      ∀ id ∈ timed.2.readId?, isUnbroken id = true ∧
        ∀ place ∈ (CertificateId.resolve sampleReader.mounts id).toOption,
          (Reading.record place.1 place.2).Fits Remote.sampleBase := by
    decide +kernel
  refine ⟨by decide +kernel, by decide +kernel, ?_⟩
  refine (remote_reads_like_memory hr (by decide +kernel) (by decide) (fun mount => rfl)
    (by decide +kernel) (by decide +kernel) (MemoryBackend.shows_routes _ _) hmounts
    (by decide +kernel) fun timed htimed => ?_).1
  obtain ⟨hreading, hids⟩ := hsteps timed htimed
  refine ⟨hreading, fun id hid => ⟨(hids id hid).1, fun mount serial hplace => ?_⟩⟩
  exact (hids id hid).2 (mount, serial) (by rw [hplace]; rfl)

/-! ## Ids that are too long -/

theorem resolve_longWord {n : Nat} (hn : 2 < n) :
    CertificateId.resolve ["pki"] (CertificateId.ofMount "pki" (longWord n)) =
      .ok ("pki", longWord n) := by
  have hserial : CertificateId.isSerial (longWord n) = true := by
    have hslash : '/' ∉ (longWord n).toList := fun hmem =>
      forall_mem_longWord (p := (· ≠ '/')) (by decide) n '/' hmem rfl
    have hstep := Remote.isStep_longWord hn
    simp only [Remote.isStep, Bool.and_eq_true] at hstep
    simp [CertificateId.isSerial, hslash, hstep.1.1, hstep.1.2, hstep.2]
  have htrail : hasTrailingBlank (longWord n) = false := by
    unfold hasTrailingBlank
    cases hlast : (longWord n).toList.getLast? with
    | none => rfl
    | some c =>
        exact forall_mem_longWord (p := (isBlank · = false)) (by decide) n c
          (List.mem_of_getLast? hlast)
  exact CertificateId.resolve_ofMount_of_isSerial (List.mem_singleton_self _) (by decide)
    (by decide) hserial htrail

theorem isUnbroken_ofMount_longWord (n : Nat) :
    isUnbroken (CertificateId.ofMount "pki" (longWord n)) = true := by
  have hword := isUnbroken_longWord n
  simp only [isUnbroken, CertificateId.ofMount, String.toList_append, List.all_append,
    Bool.and_eq_true] at hword ⊢
  exact ⟨by decide, hword⟩

variable {σ : Type} {server : Server σ} {s after : σ} {v : VaultClient} {id mount serial : String}

theorem pem_of_no_record (hplace : CertificateId.resolve v.mounts id = .ok (mount, serial))
    (hread : server.readRecord mount serial s = (.ok none, after)) :
    v.pem server id s = (.error (.notFound mount serial), after) := by
  have hresolve : Action.answer (v.resolve id) s = (.ok (mount, serial), s) :=
    congrArg (·, s) hplace
  exact (Action.bind_of_ok hresolve).trans (Action.bind_of_error (Action.bind_of_ok hread))

theorem pem_of_failed_record (hplace : CertificateId.resolve v.mounts id = .ok (mount, serial))
    {e : CatalogError} (hread : server.readRecord mount serial s = (.error e, after)) :
    v.pem server id s = (.error e, after) := by
  have hresolve : Action.answer (v.resolve id) s = (.ok (mount, serial), s) :=
    congrArg (·, s) hplace
  exact (Action.bind_of_ok hresolve).trans (Action.bind_of_error (Action.bind_of_error hread))

theorem readRecord_empty (mount serial : String) :
    MemoryBackend.server.readRecord mount serial .empty =
      (.ok none, MemoryBackend.empty.countRead) := rfl

/--
An id whose URL is too long: in memory there is no such record, and over HTTP there is no answer,
since nothing is sent.
-/
theorem long_ids_read_unlike_memory :
    (Http.Network.ofRoutes true []).Shows Remote.sampleBase .empty ∧ IsPlainMount "pki" ∧
      isUnbroken (CertificateId.ofMount "pki" (longWord 70000)) = true ∧
      ((start "v" ["pki"] 60000 none).pem MemoryBackend.server
          (CertificateId.ofMount "pki" (longWord 70000)) .empty).1 =
        .error (.notFound "pki" (longWord 70000)) ∧
      ∃ message, (start "v" ["pki"] 60000 none).pem Remote.sampleRemote.server
          (CertificateId.ofMount "pki" (longWord 70000)) (.ofRoutes true []) =
        (.error (.connection message), .ofRoutes true []) := by
  have hplace : CertificateId.resolve (start "v" ["pki"] 60000 none).mounts
      (CertificateId.ofMount "pki" (longWord 70000)) = .ok ("pki", longWord 70000) :=
    resolve_longWord (by decide)
  obtain ⟨message, hread⟩ :=
    Remote.readRecord_longWord (by decide : Http.Request.longestUrl < 70000) (.ofRoutes true [])
  have hmemory := pem_of_no_record hplace (readRecord_empty "pki" (longWord 70000))
  have hremote : (start "v" ["pki"] 60000 none).pem Remote.sampleRemote.server
      (CertificateId.ofMount "pki" (longWord 70000)) (.ofRoutes true []) =
        (.error (.connection message), .ofRoutes true []) :=
    pem_of_failed_record hplace hread
  exact ⟨MemoryBackend.shows_routes Remote.sampleBase .empty, by decide,
    isUnbroken_ofMount_longWord _, congrArg Prod.fst hmemory, message, hremote⟩

end VaultClient
end CertCatalog
