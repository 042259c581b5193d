import CertCatalog.CertificateId
import CertCatalog.Proofs.Url.Path
import CertCatalog.Vault.Remote

/-!
# Paths of requests

Where the requests of a remote server go.  The guard looks at the segments as they are given, and
tabs and line breaks are dropped from them afterwards; without such characters every segment keeps
its place and its text.
-/

namespace CertCatalog

open CertCatalog.Bytes

/-! ## Below a base -/

namespace Url

/-- The steps of a path: one empty segment at the end is left out, and a lone slash has no step. -/
def stepsOf (segments : List String) : List String :=
  if isRoot (popIfEmpty segments) then [] else popIfEmpty segments

theorem appendSegment_popIfEmpty (segments : List String) (segment : String) :
    appendSegment (popIfEmpty segments) segment = stepsOf segments ++ [segment] := by
  unfold appendSegment stepsOf
  split <;> rfl

/--
The path goes on after the steps of the base with the version and with one segment for each of the
given ones, which spells the bytes of the given one and is neither empty nor a dot segment.
-/
def Continues (base url : Url) (segments : List String) : Prop :=
  ∃ steps encoded, base.path = .segments steps ∧
    url.path = .segments (stepsOf steps ++ "v1" :: encoded) ∧
    encoded.map (fun segment => percentDecode segment.toList) = segments.map utf8 ∧
    ∀ segment ∈ encoded, '/' ∉ segment.toList ∧ segment ≠ "" ∧ segment ≠ "." ∧ segment ≠ ".."

end Url

namespace Remote

open CertCatalog.Url

theorem ne_of_isStep {segment : String} (hstep : isStep segment = true) :
    segment ≠ "" ∧ segment ≠ "." ∧ segment ≠ ".." := by
  simp only [isStep, Bool.and_eq_true, Bool.not_eq_true', String.isEmpty_eq_false_iff,
    bne_iff_ne] at hstep
  exact ⟨hstep.1.1, hstep.1.2, hstep.2⟩

theorem ofAddress_eq_ok {address : String} {token : Secret} {trust : TrustOptions}
    {timeout : Nat} {r : Remote} (hr : ofAddress address token trust timeout = .ok r) :
    Url.parse (Text.trim address) = .ok r.base ∧ r.base.isOpaque = false ∧
      r = { base := r.base, token := token, timeout := timeout } := by
  unfold ofAddress at hr
  cases hbase : Url.parse (Text.trim address) with
  | error e => simp [hbase] at hr
  | ok base =>
      simp only [hbase] at hr
      cases hsegments : base.isOpaque with
      | true => simp [hsegments] at hr
      | false =>
          simp only [hsegments] at hr
          cases hbundle : trust.bundle with
          | none =>
              simp only [hbundle] at hr
              cases hr
              exact ⟨rfl, hsegments, rfl⟩
          | some bundle =>
              simp only [hbundle] at hr
              cases hcheck : Http.TrustBundle.check bundle with
              | error e => simp [hcheck, bind, Except.bind] at hr
              | ok checked =>
                  simp only [hcheck, bind, Except.bind] at hr
                  cases hr
                  exact ⟨rfl, hsegments, rfl⟩

theorem exists_segments_of_ofAddress {address : String} {token : Secret} {trust : TrustOptions}
    {timeout : Nat} {r : Remote} (hr : ofAddress address token trust timeout = .ok r) :
    ∃ steps, r.base.path = .segments steps := by
  have hsegments := (ofAddress_eq_ok hr).2.1
  cases hpath : r.base.path with
  | segments steps => exact ⟨steps, rfl⟩
  | opaqueText text => simp [isOpaque, hpath] at hsegments

theorem token_of_ofAddress {address : String} {token : Secret} {trust : TrustOptions}
    {timeout : Nat} {r : Remote} (hr : ofAddress address token trust timeout = .ok r) :
    r.token = token := by
  rw [(ofAddress_eq_ok hr).2.2]

theorem endpoint_eq_ok {r : Remote} {segments steps : List String} {url : Url}
    (hbase : r.base.path = .segments steps) (hurl : r.endpoint segments = .ok url) :
    (∀ segment ∈ segments, segment ≠ "" ∧ segment ≠ "." ∧ segment ≠ "..") ∧
      url = { r.base with
        path := .segments (segments.foldl (pushSegment r.base.isSpecial)
          (stepsOf steps ++ ["v1"])) } := by
  unfold endpoint at hurl
  split at hurl
  · next hall =>
      have hsteps : ∀ segment ∈ segments, segment ≠ "" ∧ segment ≠ "." ∧ segment ≠ ".." :=
        fun segment hmem => ne_of_isStep (List.all_eq_true.mp hall segment hmem)
      refine ⟨hsteps, ?_⟩
      have hfilter : segments.filter (fun s => s != "." && s != "..") = segments := by
        rw [List.filter_eq_self]
        intro segment hmem
        obtain ⟨-, hdot, hdots⟩ := hsteps segment hmem
        simp [hdot, hdots]
      have hversion : ∀ special done, pushSegment special done "v1" = appendSegment done "v1" := by
        intro special done
        have hencoded : encodedSegment special "v1" = "v1" := by
          cases special <;> decide
        rw [pushSegment_eq, hencoded]
        rfl
      rw [← Except.ok.inj hurl, extend, hbase]
      simp only [List.filter_cons, hfilter]
      rw [← appendSegment_popIfEmpty, ← hversion r.base.isSpecial]
      rfl
  · cases hurl

theorem path_of_isUnbroken {special : Bool} {segments steps : List String}
    (hsteps : ∀ segment ∈ segments, segment ≠ "" ∧ segment ≠ "." ∧ segment ≠ "..")
    (hkept : ∀ segment ∈ segments, isUnbroken segment = true) :
    segments.foldl (pushSegment special) (stepsOf steps ++ ["v1"]) =
      stepsOf steps ++ "v1" :: segments.map (encodedSegment special) := by
  rw [foldl_pushSegment_of_isUnbroken special (isRoot_append_of_ne (by decide)) hkept hsteps]
  simp

theorem map_percentDecode_of_isUnbroken {special : Bool} {segments : List String}
    (hkept : ∀ segment ∈ segments, isUnbroken segment = true) :
    (segments.map (encodedSegment special)).map (fun segment => percentDecode segment.toList) =
      segments.map utf8 := by
  rw [List.map_map]
  apply List.map_congr_left
  intro segment hmem
  rw [Function.comp_apply, percentDecode_encodedSegment_of_isUnbroken special (hkept segment hmem)]

theorem isUnbroken_of_percentDecode_shownSegment {special : Bool} {segment : String}
    (hne : segment ≠ "")
    (hdecoded : percentDecode (shownSegment special segment).toList = utf8 segment) :
    isUnbroken segment = true := by
  unfold shownSegment at hdecoded
  split at hdecoded
  · exact absurd (utf8_eq_nil_iff.mp hdecoded.symm) hne
  · rw [percentDecode_encodedSegment] at hdecoded
    exact (ofList_filter_isKept_eq_self_iff segment).mp (utf8_injective hdecoded)

/-- A path that is as long as it can be has had no step upwards, and then nothing was dropped. -/
theorem isUnbroken_of_path {special : Bool} {segments steps encoded : List String}
    (hsteps : ∀ segment ∈ segments, segment ≠ "" ∧ segment ≠ "." ∧ segment ≠ "..")
    (hpath : segments.foldl (pushSegment special) (stepsOf steps ++ ["v1"]) =
      stepsOf steps ++ "v1" :: encoded)
    (hdecoded : encoded.map (fun segment => percentDecode segment.toList) = segments.map utf8) :
    ∀ segment ∈ segments, isUnbroken segment = true := by
  have hlength : encoded.length = segments.length := by
    simpa using congrArg List.length hdecoded
  have hstart : stepsOf steps ++ ["v1"] ≠ [] := by simp
  rcases foldl_pushSegment_cases special hstart segments with hall | hfew
  · rw [hall, List.append_assoc, List.append_cancel_left_eq, List.singleton_append] at hpath
    obtain ⟨-, rfl⟩ := List.cons.inj hpath
    intro segment hmem
    have hsegment := List.map_inj_left.mp ((List.map_map ..).symm.trans hdecoded) segment hmem
    rw [Function.comp_apply] at hsegment
    exact isUnbroken_of_percentDecode_shownSegment (hsteps segment hmem).1 hsegment
  · rw [hpath] at hfew
    simp only [List.length_append, List.length_cons, List.length_nil, hlength] at hfew
    omega

/--
The URL of a place keeps scheme, authority, query and fragment of the base.  Its path continues the
path of the base segment by segment, and each segment spells what was given, exactly if no tab and
no line break is given.  Among places without such characters no two have the same URL.
-/
theorem endpoint_continues_iff {address : String} {token : Secret} {trust : TrustOptions}
    {timeout : Nat} {r : Remote} (hr : ofAddress address token trust timeout = .ok r)
    {segments : List String} {url : Url} (hurl : r.endpoint segments = .ok url) :
    (url.scheme = r.base.scheme ∧ url.authority = r.base.authority ∧
      url.query = r.base.query ∧ url.fragment = r.base.fragment) ∧
    (r.base.Continues url segments ↔
      ∀ segment ∈ segments, isUnbroken segment = true) ∧
    ((∀ segment ∈ segments, isUnbroken segment = true) →
      ∀ others, (∀ segment ∈ others, isUnbroken segment = true) →
        r.endpoint others = .ok url → others = segments) := by
  obtain ⟨steps, hbase⟩ := exists_segments_of_ofAddress hr
  obtain ⟨hsteps, rfl⟩ := endpoint_eq_ok hbase hurl
  refine ⟨⟨rfl, rfl, rfl, rfl⟩, ⟨?_, ?_⟩, ?_⟩
  · rintro ⟨found, encoded, hfound, hpath, hdecoded, -⟩
    obtain rfl : steps = found := Path.segments.inj (hbase.symm.trans hfound)
    exact isUnbroken_of_path hsteps (Path.segments.inj hpath) hdecoded
  · intro hkept
    refine ⟨steps, segments.map (encodedSegment r.base.isSpecial), hbase,
      congrArg Path.segments (path_of_isUnbroken hsteps hkept),
      map_percentDecode_of_isUnbroken hkept, ?_⟩
    intro shown hshown
    obtain ⟨segment, hmem, rfl⟩ := List.mem_map.mp hshown
    obtain ⟨hempty, hdot, hdots⟩ := hsteps segment hmem
    have hclean := hkept segment hmem
    exact ⟨slash_not_mem_encodedSegment _ segment,
      fun heq => hempty (eq_of_encodedSegment_eq _ hclean rfl heq),
      fun heq => hdot (eq_of_encodedSegment_eq _ hclean rfl heq),
      fun heq => hdots (eq_of_encodedSegment_eq _ hclean rfl heq)⟩
  · intro hkept others hothers hsame
    obtain ⟨hother, heq⟩ := endpoint_eq_ok hbase hsame
    have hpath := Path.segments.inj (congrArg Url.path heq)
    rw [path_of_isUnbroken hsteps hkept, path_of_isUnbroken hother hothers,
      List.append_cancel_left_eq] at hpath
    have hbytes := congrArg (List.map fun segment => percentDecode segment.toList)
      (List.cons.inj hpath).2
    rw [map_percentDecode_of_isUnbroken hkept, map_percentDecode_of_isUnbroken hothers] at hbytes
    exact ((List.map_inj_right fun _ _ => utf8_injective).mp hbytes).symm

def sampleBase : Url :=
  { scheme := "http"
    authority := some
      { username := "", password := "", host := .ipv4 0x7F000001, port := some 8200 }
    path := .segments ["vault", ""]
    query := none
    fragment := none }

def sampleRemote : Remote :=
  { base := sampleBase, token := ⟨"r"⟩, timeout := 5000 }

theorem endpoint_continues_of_sample :
    sampleRemote.endpoint (belowMount "team/pki" ["cert", "a/../b"]) = .ok
        { sampleBase with
          path := .segments ["vault", "v1", "team", "pki", "cert", "a%2F..%2Fb"] } ∧
      sampleBase.Continues
        { sampleBase with
          path := .segments ["vault", "v1", "team", "pki", "cert", "a%2F..%2Fb"] }
        ["team", "pki", "cert", "a/../b"] := by
  have hr : ofAddress "http://127.0.0.1:8200/vault/" ⟨"r"⟩
      { skipVerification := false, bundle := none } 5000 = .ok sampleRemote := by
    decide +kernel
  have hplace : belowMount "team/pki" ["cert", "a/../b"] = ["team", "pki", "cert", "a/../b"] := by
    decide
  have hurl : sampleRemote.endpoint ["team", "pki", "cert", "a/../b"] = .ok
      { sampleBase with
        path := .segments ["vault", "v1", "team", "pki", "cert", "a%2F..%2Fb"] } := by
    decide +kernel
  exact ⟨hplace ▸ hurl, (endpoint_continues_iff hr hurl).2.1.mpr (by decide)⟩

/-! ## Dropped characters -/

/--
Two serials that can be addressed.  Two dots with a tab between them lead out of the place of the
mount, and a tab in a serial leads to the record of another serial.
-/
theorem endpoint_of_dropped_characters :
    CertificateId.isSerial ".	." = true ∧ CertificateId.isSerial "a	b" = true ∧
      sampleRemote.endpoint (belowMount "pki" ["cert", ".	."]) =
        .ok { sampleBase with path := .segments ["vault", "v1", "pki", ""] } ∧
      ¬sampleBase.Continues { sampleBase with path := .segments ["vault", "v1", "pki", ""] }
        (belowMount "pki" ["cert", ".	."]) ∧
      sampleRemote.endpoint (belowMount "pki" ["cert", "a	b"]) =
        sampleRemote.endpoint (belowMount "pki" ["cert", "ab"]) := by
  refine ⟨by decide, by decide, by decide +kernel, ?_, by decide +kernel⟩
  rintro ⟨steps, encoded, hbase, hpath, hdecoded, -⟩
  obtain rfl : ["vault", ""] = steps := Path.segments.inj hbase
  obtain rfl : ["pki", ""] = encoded :=
    (List.cons.inj (List.cons.inj (Path.segments.inj hpath)).2).2
  have hlength := congrArg List.length hdecoded
  simp only [List.length_map] at hlength
  exact absurd hlength (by decide)

end Remote
end CertCatalog
