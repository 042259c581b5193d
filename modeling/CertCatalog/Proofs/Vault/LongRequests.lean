import Mathlib.Algebra.BigOperators.Group.List.Basic
import CertCatalog.Proofs.Url.Text
import CertCatalog.Proofs.Vault.Requests

/-!
# Requests that are too long

The URL of a request is at least as long as each of its segments before they are encoded.  Where it
is too long nothing is sent, and the call fails for want of a connection.
-/

namespace CertCatalog

open CertCatalog.Bytes

/-! ## Lengths -/

theorem length_le_length_flatMap {α β : Type} {f : α → List β} (hf : ∀ a, f a ≠ [])
    (items : List α) : items.length ≤ (items.flatMap f).length := by
  have hone : ∀ n ∈ items.map fun a => (f a).length, 1 ≤ n := by
    intro n hn
    obtain ⟨a, -, rfl⟩ := List.mem_map.mp hn
    exact List.length_pos_of_ne_nil (hf a)
  calc items.length = (items.map fun a => (f a).length).length := (List.length_map _).symm
    _ ≤ (items.map fun a => (f a).length).sum := List.length_le_sum_of_one_le _ hone
    _ = (items.flatMap f).length := List.length_flatMap.symm

theorem length_le_length_utf8 (text : String) : text.length ≤ (utf8 text).length := by
  rw [← String.length_toList]
  exact length_le_length_flatMap (fun _ => String.utf8EncodeChar_ne_nil) _

namespace Url

theorem length_le_length_percentEncode (inSet : UInt8 → Bool) (text : List Char) :
    text.length ≤ (percentEncode inSet text).length := by
  have hshown : ∀ b, shownByte inSet b ≠ [] := by
    intro b
    unfold shownByte encodeByte
    split <;> exact List.cons_ne_nil _ _
  rw [percentEncode_eq_flatMap]
  exact (length_le_length_flatMap (fun _ => String.utf8EncodeChar_ne_nil) text).trans
    (length_le_length_flatMap hshown _)

theorem length_le_length_encodedSegment (special : Bool) {segment : String}
    (hkept : isUnbroken segment = true) :
    segment.length ≤ (encodedSegment special segment).length := by
  have hfilter : segment.toList.filter isKept = segment.toList :=
    List.filter_eq_self.mpr (List.all_eq_true.mp hkept)
  rw [encodedSegment, hfilter, String.length_ofList, ← String.length_toList]
  exact length_le_length_percentEncode _ _

theorem length_segment_le {u : Url} {segments : List String} (hpath : u.path = .segments segments)
    {segment : String} (hmem : segment ∈ segments) : segment.length ≤ u.text.length := by
  have hsegment : segment.length ≤ u.path.text.length := by
    obtain ⟨before, after, rfl⟩ := List.append_of_mem hmem
    have hcons : pathChars (segment :: after) = '/' :: segment.toList ++ pathChars after := rfl
    rw [hpath, ← String.length_toList (s := (Path.segments _).text), toList_text_segments,
      pathChars_append, hcons]
    simp only [List.length_append, List.length_cons, String.length_toList]
    omega
  simp only [text, String.length_append]
  omega

end Url

/-! ## Words of any length -/

/-- A word of one letter. -/
def longWord (length : Nat) : String :=
  String.ofList (List.replicate length 'a')

theorem length_longWord (n : Nat) : (longWord n).length = n := by
  rw [longWord, String.length_ofList, List.length_replicate]

theorem forall_mem_longWord {p : Char → Prop} (hp : p 'a') (n : Nat) :
    ∀ c ∈ (longWord n).toList, p c := by
  intro c hc
  rw [longWord, String.toList_ofList] at hc
  rw [List.eq_of_mem_replicate hc]
  exact hp

theorem isUnbroken_longWord (n : Nat) : Url.isUnbroken (longWord n) = true :=
  List.all_eq_true.mpr (forall_mem_longWord (p := (Url.isKept · = true)) rfl n)

/-! ## Long places -/

namespace Remote

open CertCatalog.Url CertCatalog.Http

variable {r : Remote}

/-- All segments of a place that can be asked for are short. -/
theorem length_le_of_isShort {segments steps : List String} {url : Url}
    (hbase : r.base.path = .segments steps) (hurl : r.endpoint segments = .ok url)
    (hkept : ∀ segment ∈ segments, isUnbroken segment = true) {query : List (String × String)}
    (hshort : Request.isShort (fullUrl url query) = true) {segment : String}
    (hmem : segment ∈ segments) : segment.length ≤ Request.longestUrl := by
  obtain ⟨hsteps, rfl⟩ := endpoint_eq_ok hbase hurl
  have hpath : (fullUrl { r.base with path := .segments (segments.foldl
      (pushSegment r.base.isSpecial) (stepsOf steps ++ ["v1"])) } query).path =
      .segments (stepsOf steps ++ "v1" :: segments.map (encodedSegment r.base.isSpecial)) := by
    rw [path_fullUrl, path_of_isUnbroken hsteps hkept]
  have hencoded : encodedSegment r.base.isSpecial segment ∈
      stepsOf steps ++ "v1" :: segments.map (encodedSegment r.base.isSpecial) :=
    List.mem_append_right _ (List.mem_cons_of_mem _ (List.mem_map_of_mem hmem))
  calc segment.length
      ≤ (encodedSegment r.base.isSpecial segment).length :=
        length_le_length_encodedSegment _ (hkept segment hmem)
    _ ≤ _ := length_segment_le hpath hencoded
    _ ≤ _ := length_le_length_utf8 _
    _ ≤ Request.longestUrl := of_decide_eq_true hshort

/-- A request with a URL that is too long is not sent, and the network does not notice it. -/
theorem exchange_of_long {form : RequestForm} {url : Url}
    (hurl : r.endpoint form.segments = .ok url) (hhttp : isPlainHttp url = true)
    (htoken : (form.authority.token? r.token).all Request.isLegalToken = true)
    (hlong : Request.isShort (fullUrl url form.query) = false) (net : Network) :
    r.exchange form net =
      (.error (.connection ("request to " ++ url.text ++ " failed: " ++
        (Failure.unusableUrl (fullUrl url form.query)).message)), net) := by
  have hhost : url.hasHost = true := by
    simp only [isPlainHttp, Bool.and_eq_true, Option.any_eq_true] at hhttp
    obtain ⟨-, a, ha, hnonempty, -⟩ := hhttp
    simp only [hasHost, ha, hnonempty]
  have hsend : net.send (r.requestAt form url) form.query r.timeout =
      (.error (.unusableUrl (fullUrl url form.query)), net) := by
    rw [Network.send_eq]
    simp [requestAt, hhost, htoken, Network.isUsable_fullUrl, hlong]
  rw [exchange_eq hurl, hsend]
  rfl

theorem isPlainHttp_extend (url : Url) (added : List String) :
    isPlainHttp (url.extend added) = isPlainHttp url := by
  unfold Url.extend
  split <;> rfl

theorem run_of_long {steps : List String} (hbase : r.base.path = .segments steps)
    (hhttp : isPlainHttp r.base = true) (call : ServerCall)
    (htoken : (call.form.authority.token? r.token).all Request.isLegalToken = true)
    (hsteps : call.form.segments.all isStep = true)
    (hkept : ∀ segment ∈ call.form.segments, isUnbroken segment = true)
    {segment : String} (hmem : segment ∈ call.form.segments)
    (hlong : Request.longestUrl < segment.length) (net : Network) :
    ∃ message, call.run r net = (.error (.connection message), net) := by
  have hurl : r.endpoint call.form.segments = .ok (r.base.extend ("v1" :: call.form.segments)) :=
    if_pos hsteps
  have hshort : Request.isShort
      (fullUrl (r.base.extend ("v1" :: call.form.segments)) call.form.query) = false := by
    rw [← Bool.not_eq_true]
    intro hshort
    exact Nat.not_lt.mpr (length_le_of_isShort hbase hurl hkept hshort hmem) hlong
  rw [call.run_eq]
  exact ⟨_, Action.bind_of_error
    (exchange_of_long hurl ((isPlainHttp_extend ..).trans hhttp) htoken hshort net)⟩

/-! ## A record with a long serial -/

theorem isStep_longWord {n : Nat} (hn : 2 < n) : isStep (longWord n) = true := by
  have hne : ∀ text : String, text.length ≤ 2 → longWord n ≠ text := by
    rintro text htext rfl
    rw [length_longWord] at htext
    omega
  simp only [isStep, Bool.and_eq_true, Bool.not_eq_true', String.isEmpty_eq_false_iff, bne_iff_ne]
  exact ⟨⟨hne "" (by decide), hne "." (by decide)⟩, hne ".." (by decide)⟩

theorem segments_readRecord (serial : String) :
    (ServerCall.readRecord "pki" serial).form.segments = ["pki", "cert", serial] := by
  have hmount : Text.splitOn (String.ofList (trimSlashes "pki".toList)) '/' = ["pki"] := by decide
  show Text.splitOn (String.ofList (trimSlashes "pki".toList)) '/' ++ ["cert", serial] = _
  rw [hmount, List.singleton_append]

theorem all_isStep_longWord {n : Nat} (hn : 2 < n) :
    (ServerCall.readRecord "pki" (longWord n)).form.segments.all isStep = true := by
  simp only [segments_readRecord, List.all_cons, isStep_longWord hn]
  decide

/-- A record cannot be read whose serial alone is longer than a URL may be. -/
theorem readRecord_longWord {n : Nat} (hn : Request.longestUrl < n) (net : Network) :
    ∃ message, sampleRemote.readRecord "pki" (longWord n) net =
      (.error (.connection message), net) := by
  have hsteps := all_isStep_longWord (lt_trans (by decide : 2 < Request.longestUrl) hn)
  have hkept : ∀ segment ∈ (ServerCall.readRecord "pki" (longWord n)).form.segments,
      isUnbroken segment = true := by
    simp only [segments_readRecord, List.forall_mem_cons, isUnbroken_longWord]
    decide
  have hmem : longWord n ∈ (ServerCall.readRecord "pki" (longWord n)).form.segments := by
    simp [segments_readRecord]
  have hbase : sampleRemote.base.path = .segments ["vault", ""] := rfl
  have htoken : Request.isLegalToken sampleRemote.token = true := by decide
  exact run_of_long hbase (by decide) (.readRecord "pki" (longWord n)) htoken hsteps hkept hmem
    (by rwa [length_longWord]) net

end Remote
end CertCatalog
