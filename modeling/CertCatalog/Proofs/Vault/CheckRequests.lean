import CertCatalog.Proofs.Url.Reader
import CertCatalog.Proofs.Url.Text
import CertCatalog.Proofs.Vault.Invariants
import CertCatalog.Proofs.Vault.Requests
import CertCatalog.Proofs.Vault.Servers

/-!
# Requests of checks

The path of a check is one that no listing asks for, whatever the mounts and the serials are.  So a
network that has answered a check answers every listing as it did before.
-/

namespace CertCatalog

open CertCatalog.Url
open CertCatalog.Http (Network)

/-! ## Plain places -/

namespace Url

theorem isPlain_stepsOf {segments : List String} (h : (Path.segments segments).IsPlain) :
    (Path.segments (stepsOf segments)).IsPlain := by
  refine isPlain_sublist h ?_
  have hpop : (popIfEmpty segments).Sublist segments := by
    unfold popIfEmpty
    split
    · exact List.dropLast_sublist _
    · exact List.Sublist.refl _
  unfold stepsOf
  split
  · exact List.nil_sublist _
  · exact hpop

theorem Authority.IsPlain.sent {a : Authority} (h : a.IsPlain) :
    (Http.sentAuthority a).IsPlain := by
  unfold Http.sentAuthority
  split
  · exact h
  · exact ⟨nofun, nofun⟩

end Url

theorem Http.exists_beforeQuery_of_isPlain {url : Url} (hplain : isPlainHttp url = true)
    (hauthority : ∀ a ∈ url.authority, a.IsPlain) {segments : List String}
    (hpath : url.path = .segments segments) (hsegments : (Path.segments segments).IsPlain)
    (request : Request) (hrequest : request.url = url) (query : List (String × String)) :
    ∃ start, beforeQuery (sent request query).url = start ++ pathChars segments := by
  subst hrequest
  simp only [isPlainHttp, Bool.and_eq_true, beq_iff_eq, Option.any_eq_true] at hplain
  obtain ⟨hscheme, a, ha, -, hhost⟩ := hplain
  have hsent : '?' ∉ (sentAuthority a).text.toList :=
    question_notMem_text (hauthority a ha).sent (by rwa [host_sentAuthority])
  have hfullScheme : (fullUrl request.url query).withoutFragment.scheme = "http" :=
    (scheme_fullUrl _ _).trans hscheme
  have hfullAuthority :
      (fullUrl request.url query).withoutFragment.authority = some (sentAuthority a) :=
    (authority_fullUrl _ _).trans (by rw [ha]; rfl)
  have hfullPath : (fullUrl request.url query).withoutFragment.path = .segments segments :=
    (path_fullUrl _ _).trans hpath
  refine ⟨_, beforeQuery_text hfullAuthority hfullPath rfl ?_ (question_notMem_pathChars hsegments)⟩
  simpa [hfullScheme] using hsent

/-! ## Where checks ask -/

/-- The last two segments of the places that a check asks. -/
def checkEndings : List (String × String) :=
  [("sys", "health"), ("token", "lookup-self")]

def isCheckPlace (url : String) : Bool :=
  checkEndings.any fun (folder, name) => (pathChars [folder, name]).isSuffixOf (beforeQuery url)

theorem isCheckPlace_of_path {url : String} {start : List Char} {front : List String}
    {folder name : String} (hending : (folder, name) ∈ checkEndings)
    (hurl : beforeQuery url = start ++ pathChars (front ++ [folder, name])) :
    isCheckPlace url = true := by
  rw [isCheckPlace, List.any_eq_true]
  refine ⟨(folder, name), hending, List.isSuffixOf_iff_suffix.mpr ⟨start ++ pathChars front, ?_⟩⟩
  rw [hurl, pathChars_append, List.append_assoc]

theorem isSegment_of_mem_checkEndings {folder name : String}
    (hending : (folder, name) ∈ checkEndings) :
    IsSegment folder.toList ∧ IsSegment name.toList := by
  have hall : ∀ ending ∈ checkEndings, ('/' ∉ ending.1.toList ∧ '?' ∉ ending.1.toList) ∧
      '/' ∉ ending.2.toList ∧ '?' ∉ ending.2.toList := by decide
  exact hall _ hending

/--
A path that is no place of a check: its last segment is none that a check asks for, or the one
before it is another.
-/
def IsUnchecked (segments : List String) : Prop :=
  ∃ front last, segments = front ++ [last] ∧ IsSegment last.toList ∧
    ∀ folder, (folder, last) ∈ checkEndings →
      ∃ earlier other, front = earlier ++ [other] ∧ IsSegment other.toList ∧ folder ≠ other

theorem not_isCheckPlace_of_path {url : String} {start : List Char} {segments : List String}
    (hsegments : IsUnchecked segments) (hurl : beforeQuery url = start ++ pathChars segments) :
    isCheckPlace url = false := by
  have hsingle : ∀ (before : List Char) (front : List String) (last : String),
      before ++ pathChars (front ++ [last]) = (before ++ pathChars front) ++ '/' :: last.toList := by
    intro before front last
    simp [pathChars]
  rw [← Bool.not_eq_true]
  intro hcheck
  rw [isCheckPlace, List.any_eq_true] at hcheck
  obtain ⟨⟨folder, name⟩, hending, hsuffix⟩ := hcheck
  obtain ⟨hfolder, hname⟩ := isSegment_of_mem_checkEndings hending
  obtain ⟨before, hbefore⟩ := List.isSuffixOf_iff_suffix.mp hsuffix
  obtain ⟨front, last, rfl, hlast, hother⟩ := hsegments
  have hpair := hsingle before [folder] name
  rw [List.singleton_append, hbefore, hurl, hsingle] at hpair
  obtain ⟨hends, hsame⟩ := last_segment_inj hlast hname hpair
  obtain rfl := String.toList_injective hsame
  obtain ⟨earlier, other, rfl, hsegment, hne⟩ := hother folder hending
  have hfolders := hsingle before [] folder
  rw [List.nil_append, ← hends, hsingle] at hfolders
  exact hne (String.toList_injective
    (last_segment_inj hsegment hfolder hfolders).2).symm

/-! ## Where listings ask -/

theorem isUnchecked_of_last {front : List String} {last : String} (hlast : IsSegment last.toList)
    (hother : ∀ ending ∈ checkEndings, ending.2 ≠ last) : IsUnchecked (front ++ [last]) :=
  ⟨front, last, rfl, hlast, fun folder hending => absurd rfl (hother (folder, last) hending)⟩

theorem isUnchecked_push_word {special : Bool} {word : String}
    (hword : word ∈ ["certs", "revoked"]) (segments : List String) :
    IsUnchecked (pushSegment special segments word) := by
  have hall : ∀ special, ∀ word ∈ ["certs", "revoked"],
      (encodedSegment special word = word ∧ word ≠ "." ∧ word ≠ "..") ∧
        ('/' ∉ word.toList ∧ '?' ∉ word.toList) ∧ ∀ ending ∈ checkEndings, ending.2 ≠ word := by
    decide
  obtain ⟨hplain, hsegment, hother⟩ := hall special word hword
  obtain ⟨front, hfront⟩ := exists_appendSegment segments word
  rw [pushSegment_word hplain, hfront]
  exact isUnchecked_of_last hsegment hother

theorem isUnchecked_push_record (special : Bool) (segments : List String) (serial : String) :
    IsUnchecked (pushSegment special (pushSegment special segments "cert") serial) := by
  have hword : encodedSegment special "cert" = "cert" ∧ "cert" ≠ "." ∧ "cert" ≠ ".." := by
    cases special <;> decide
  obtain ⟨front, hfront⟩ := exists_appendSegment segments "cert"
  rw [pushSegment_word hword, hfront]
  rcases pushSegment_ends special (front ++ ["cert"]) serial with ⟨other, hempty⟩ | hserial
  · rw [hempty]
    exact isUnchecked_of_last isSegment_empty (by decide)
  · have hroot : isRoot (front ++ ["cert"]) = false := isRoot_append_of_ne (by decide)
    have hadded : appendSegment (front ++ ["cert"]) (encodedSegment special serial) =
        front ++ ["cert"] ++ [encodedSegment special serial] := by
      rw [appendSegment, hroot]
      rfl
    rw [hserial, hadded]
    refine ⟨_, _, rfl, isSegment_encodedSegment special serial, fun folder hending => ?_⟩
    have hfolders : ∀ ending ∈ checkEndings, ending.1 ≠ "cert" := by decide
    exact ⟨front, "cert", rfl, ⟨by decide, by decide⟩, hfolders _ hending⟩

/-! ## Requests -/

namespace Remote

variable {r : Remote} {form : RequestForm} {url : Url} {longer : Nat}

def HasAddress (r : Remote) : Prop :=
  ∃ address token trust timeout, ofAddress address token trust timeout = .ok r

theorem exists_beforeQuery_sent (hr : r.HasAddress) (hurl : r.endpoint form.segments = .ok url)
    (hplain : Http.isPlainHttp url = true) :
    ∃ start steps,
      beforeQuery (Http.sent (r.requestAt form url) form.query).url =
        start ++ pathChars
          (form.segments.foldl (pushSegment r.base.isSpecial) (stepsOf steps ++ ["v1"])) := by
  obtain ⟨address, token, trust, timeout, hr⟩ := hr
  obtain ⟨hauthority, hbase⟩ := isPlain_of_parse (ofAddress_eq_ok hr).1
  obtain ⟨steps, hsteps⟩ := exists_segments_of_ofAddress hr
  obtain ⟨-, rfl⟩ := endpoint_eq_ok hsteps hurl
  have hversion : IsSegment "v1".toList := ⟨by decide, by decide⟩
  have hstart : (Path.segments (stepsOf steps ++ ["v1"])).IsPlain :=
    (isPlain_stepsOf (hsteps ▸ hbase)).append (isPlain_singleton hversion)
  obtain ⟨start, hsent⟩ := Http.exists_beforeQuery_of_isPlain hplain hauthority rfl
    (isPlain_foldl_pushSegment r.base.isSpecial hstart form.segments) (r.requestAt form _) rfl
    form.query
  exact ⟨start, steps, hsent⟩

/-- All places that a form leads to are places of checks, or none of them is. -/
def LeadsTo (r : Remote) (form : RequestForm) (isCheck : Bool) : Prop :=
  ∀ url, r.endpoint form.segments = .ok url → Http.isPlainHttp url = true →
    isCheckPlace (Http.sent (r.requestAt form url) form.query).url = isCheck

theorem leadsTo_check (hr : r.HasAddress) (front : List String) {folder name : String}
    (hending : (folder, name) ∈ checkEndings) (hform : form.segments = front ++ [folder, name])
    (hwords : ∀ special, ∀ word ∈ form.segments, encodedSegment special word = word)
    (hkept : ∀ word ∈ form.segments, isUnbroken word = true) : r.LeadsTo form true := by
  intro url hurl hplain
  obtain ⟨start, steps, hsent⟩ := exists_beforeQuery_sent hr hurl hplain
  obtain ⟨address, token, trust, timeout, hr⟩ := hr
  obtain ⟨base, hbase⟩ := exists_segments_of_ofAddress hr
  have hsteps := (endpoint_eq_ok hbase hurl).1
  have hencoded : form.segments.map (encodedSegment r.base.isSpecial) = form.segments :=
    (List.map_congr_left (hwords _)).trans (List.map_id _)
  have hpath : stepsOf steps ++ "v1" :: (front ++ [folder, name]) =
      (stepsOf steps ++ "v1" :: front) ++ [folder, name] := by simp
  rw [path_of_isUnbroken hsteps hkept, hencoded, hform, hpath] at hsent
  exact isCheckPlace_of_path hending hsent

theorem leadsTo_health (hr : r.HasAddress) : r.LeadsTo ServerCall.health.form true :=
  leadsTo_check hr [] (by decide) rfl (by decide) (by decide)

theorem leadsTo_checkToken (hr : r.HasAddress) : r.LeadsTo ServerCall.checkToken.form true :=
  leadsTo_check hr ["auth"] (by decide) rfl (by decide) (by decide)

theorem leadsTo_unchecked (hr : r.HasAddress)
    (hform : ∀ special start, IsUnchecked (form.segments.foldl (pushSegment special) start)) :
    r.LeadsTo form false := by
  intro url hurl hplain
  obtain ⟨start, steps, hsent⟩ := exists_beforeQuery_sent hr hurl hplain
  exact not_isCheckPlace_of_path (hform _ _) hsent

theorem leadsTo_listSerials (hr : r.HasAddress) (mount : String) :
    r.LeadsTo (ServerCall.listSerials mount).form false :=
  leadsTo_unchecked hr fun special start => by
    simp only [ServerCall.form, RequestForm.reading, belowMount, List.foldl_append,
      List.foldl_cons, List.foldl_nil]
    exact isUnchecked_push_word (by decide) _

theorem leadsTo_listRevoked (hr : r.HasAddress) (mount : String) :
    r.LeadsTo (ServerCall.listRevoked mount).form false :=
  leadsTo_unchecked hr fun special start => by
    simp only [ServerCall.form, RequestForm.reading, belowMount, List.foldl_append,
      List.foldl_cons, List.foldl_nil]
    exact isUnchecked_push_word (by decide) _

theorem leadsTo_readRecord (hr : r.HasAddress) (mount serial : String) :
    r.LeadsTo (ServerCall.readRecord mount serial).form false :=
  leadsTo_unchecked hr fun special start => by
    simp only [ServerCall.form, RequestForm.reading, belowMount, List.foldl_append,
      List.foldl_cons, List.foldl_nil]
    exact isUnchecked_push_record special _ serial

/-! ## Networks after checks -/

theorem LeadsTo.agree_exchange (h : r.LeadsTo form false) :
    Action.Agree (Network.SameApartFrom isCheckPlace longer) (r.exchange form)
      (r.exchange form) := by
  unfold exchange
  refine Action.Agree.answer_bind fun url hurl => Action.Agree.bind ?_ fun reply _ => .answer _
  intro net other hsame
  have hseen : Http.isPlainHttp (r.requestAt form url).url = true →
      isCheckPlace (Http.sent (r.requestAt form url) form.query).url = false := h url hurl
  obtain ⟨hreply, hafter⟩ := hsame.send hseen r.timeout
  rw [send_eq, send_eq]
  exact ⟨congrArg (outcomeAt url) hreply, hafter⟩

theorem readsAgree_of_hasAddress (hr : r.HasAddress) :
    Server.ReadsAgree (Network.SameApartFrom isCheckPlace longer) (fun _ => True)
      (fun _ _ => True) r.server r.server where
  listSerials mount _ :=
    agree_run (.listSerials mount) (leadsTo_listSerials hr mount).agree_exchange
  listRevoked mount _ :=
    agree_run (.listRevoked mount) (leadsTo_listRevoked hr mount).agree_exchange
  readRecord mount serial _ :=
    agree_run (.readRecord mount serial) (leadsTo_readRecord hr mount serial).agree_exchange
  isPlace_of_listed _ _ _ _ _ _ _ _ _ := trivial

theorem LeadsTo.keeps {call : ServerCall} (h : r.LeadsTo call.form true) (start : Network) :
    Action.Keeps (fun net => ∃ longer, Network.SameApartFrom isCheckPlace longer start net)
      (call.run r) := by
  rintro net ⟨longer, hsame⟩
  rw [call.run_after]
  cases hurl : r.endpoint call.form.segments with
  | error e => rw [exchange_of_error hurl]; exact ⟨longer, hsame⟩
  | ok url =>
      have hhidden : Http.isPlainHttp (r.requestAt call.form url).url = true →
          isCheckPlace (Http.sent (r.requestAt call.form url) call.form.query).url = true :=
        h url hurl
      obtain ⟨more, hafter⟩ := Network.sameApartFrom_send hhidden hsame.otherDirect r.timeout
      rw [exchange_of_ok hurl]
      exact ⟨longer + more, hsame.trans hafter⟩

theorem sameApartFrom_check (hr : r.HasAddress) {net : Network} (hnet : net.IsDirect) :
    ∃ longer, Network.SameApartFrom isCheckPlace longer net
      (VaultClient.check r.server net).2 := by
  have hcheck : Action.Keeps
      (fun after => ∃ longer, Network.SameApartFrom isCheckPlace longer net after)
      (VaultClient.check r.server) :=
    VaultClient.keeps_check ((leadsTo_health hr).keeps net) ((leadsTo_checkToken hr).keeps net)
  exact hcheck net ⟨0, .refl hnet⟩

end Remote

end CertCatalog
