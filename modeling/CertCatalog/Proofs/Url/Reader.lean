import CertCatalog.Http.Exchange
import CertCatalog.Proofs.Action
import CertCatalog.Proofs.Url.Text
import CertCatalog.Url.Reader

/-!
# Parts of parsed URLs

The parts of a parsed URL hold their encoded text, so none of those before the query holds the
question mark that starts one.  This stays so when the path grows.
-/

namespace CertCatalog.Url

open CertCatalog.Bytes CertCatalog.Text

/-! ## Encoded parts -/

theorem question_notMem_percentEncode {inSet : UInt8 → Bool}
    (houtside : ∀ b, 0x80 ≤ b → inSet b = true) (hquestion : inSet 0x3F = true)
    (text : List Char) : '?' ∉ percentEncode inSet text :=
  not_mem_percentEncode houtside ⟨⟨0x3F, by decide, hquestion⟩, by decide, by decide⟩ text

theorem question_notMem_pathSet (text : List Char) : '?' ∉ percentEncode pathSet text :=
  question_notMem_percentEncode (fun _ hb => pathSet_of_outside hb) (by decide) text

theorem question_notMem_userinfoSet (text : List Char) : '?' ∉ percentEncode userinfoSet text :=
  question_notMem_percentEncode (fun _ hb => by simp [userinfoSet, pathSet_of_outside hb])
    (by decide) text

/-! ## Paths -/

def Path.IsPlain : Path → Prop
  | .segments list => ∀ segment ∈ list, '?' ∉ segment.toList
  | .opaqueText _ => True

theorem isPlain_sublist {front segments : List String} (h : (Path.segments segments).IsPlain)
    (hsublist : front.Sublist segments) : (Path.segments front).IsPlain :=
  fun segment hmem => h segment (hsublist.subset hmem)

theorem mem_walkPath {segment : String} {done list : List String}
    (hmem : segment ∈ walkPath done list) : segment ∈ done ∨ segment = "" ∨ segment ∈ list := by
  have hshort : ∀ list : List String, segment ∈ list.dropLast → segment ∈ list :=
    fun list h => List.dropLast_subset list h
  fun_induction walkPath done list <;> grind

theorem isPlain_readSegments (special : Bool) (text : List Char) :
    (Path.segments (readSegments special text)).IsPlain := by
  intro segment hmem
  rcases mem_walkPath hmem with hdone | rfl | hread
  · cases hdone
  · simp
  · obtain ⟨chars, -, rfl⟩ := List.mem_map.mp hread
    rw [String.toList_ofList]
    exact question_notMem_pathSet chars

theorem isPlain_readPath (special : Bool) (text : List Char) : (readPath special text).IsPlain := by
  unfold readPath
  split
  · cases special <;> simp [Path.IsPlain]
  · exact isPlain_readSegments special _

theorem isPlain_dropEmptySegments {list : List String} (hlist : (Path.segments list).IsPlain) :
    (Path.segments (dropEmptySegments list)).IsPlain := by
  unfold dropEmptySegments
  split
  · simp [Path.IsPlain]
  · exact isPlain_sublist hlist (List.dropWhile_suffix _).sublist

/-! ## Growing paths -/

theorem isSegment_encodedSegment (special : Bool) (segment : String) :
    IsSegment (encodedSegment special segment).toList := by
  refine ⟨slash_not_mem_encodedSegment special segment, ?_⟩
  rw [encodedSegment, String.toList_ofList]
  exact question_notMem_percentEncode (isReversible_segmentSet_of special).outside
    (by cases special <;> decide) _

theorem isSegment_empty : IsSegment "".toList :=
  ⟨nofun, nofun⟩

theorem Path.IsPlain.append {front last : List String} (hfront : (Path.segments front).IsPlain)
    (hlast : (Path.segments last).IsPlain) : (Path.segments (front ++ last)).IsPlain :=
  List.forall_mem_append.mpr ⟨hfront, hlast⟩

theorem isPlain_singleton {segment : String} (h : IsSegment segment.toList) :
    (Path.segments [segment]).IsPlain :=
  List.forall_mem_singleton.mpr h.2

theorem isPlain_appendSegment {segments : List String} (h : (Path.segments segments).IsPlain)
    {segment : String} (hsegment : IsSegment segment.toList) :
    (Path.segments (appendSegment segments segment)).IsPlain := by
  unfold appendSegment
  split
  · exact isPlain_singleton hsegment
  · exact h.append (isPlain_singleton hsegment)

theorem isPlain_pushSegment (special : Bool) {segments : List String}
    (h : (Path.segments segments).IsPlain) (segment : String) :
    (Path.segments (pushSegment special segments segment)).IsPlain := by
  rw [pushSegment_eq]
  split
  · refine Path.IsPlain.append (isPlain_sublist h ?_) (isPlain_singleton isSegment_empty)
    split
    · exact List.nil_sublist _
    · exact List.dropLast_sublist _
  · split
    · exact isPlain_appendSegment h isSegment_empty
    · exact isPlain_appendSegment h (isSegment_encodedSegment special segment)

theorem isPlain_foldl_pushSegment (special : Bool) {segments : List String}
    (h : (Path.segments segments).IsPlain) (added : List String) :
    (Path.segments (added.foldl (pushSegment special) segments)).IsPlain := by
  induction added generalizing segments with
  | nil => exact h
  | cons segment rest ih => exact ih (isPlain_pushSegment special h segment)

theorem question_notMem_pathChars {segments : List String}
    (h : (Path.segments segments).IsPlain) : '?' ∉ pathChars segments := by
  intro hmem
  obtain ⟨segment, hsegment, hchar⟩ := List.mem_flatMap.mp hmem
  rcases List.mem_cons.mp hchar with hslash | hown
  · cases hslash
  · exact h segment hsegment hown

/-! ## Authorities -/

def Authority.IsPlain (a : Authority) : Prop :=
  '?' ∉ a.username.toList ∧ '?' ∉ a.password.toList

theorem isPlain_of_readAuthority {scheme : String} {followed : Bool} {text left : List Char}
    {a : Authority} (hread : readAuthority scheme followed text = .ok (a, left)) : a.IsPlain := by
  unfold readAuthority at hread
  generalize readCredentials text = credentials at hread
  obtain ⟨username, password, rest⟩ := credentials
  dsimp only at hread
  split at hread
  · cases hread
  · obtain ⟨⟨host, port, after⟩, -, hread⟩ := exists_of_bind_eq_ok hread
    split at hread
    · cases hread
    · cases hread
      constructor
      · rw [String.toList_ofList]
        exact question_notMem_userinfoSet username
      · rw [String.toList_ofList]
        exact question_notMem_userinfoSet password

theorem question_notMem_text {a : Authority} (hplain : a.IsPlain)
    (hhost : a.host.text.toList.all Http.Request.isHostChar = true) : '?' ∉ a.text.toList := by
  have hcredentials : '?' ∉ a.credentialsText.toList := by
    have hname := hplain.1
    have hword := hplain.2
    unfold Authority.credentialsText
    split
    · simp
    · split <;> simp [hname, hword]
  have hhost : '?' ∉ a.host.text.toList := by
    intro hmem
    have hchar := List.all_eq_true.mp hhost _ hmem
    revert hchar
    decide
  have hdigits : ∀ port, '?' ∉ Nat.toDigits 10 port :=
    fun port hmem => absurd (Nat.isDigit_of_mem_toDigits (by decide) (by decide) hmem) (by decide)
  unfold Authority.text
  cases a.port with
  | none => simp [hcredentials, hhost]
  | some port => simp [hcredentials, hhost, hdigits port]

/-! ## URLs -/

def fileUrlPath (text : List Char) : Path :=
  match readPath true text with
  | .segments list => .segments (dropEmptySegments list)
  | other => other

theorem isPlain_fileUrlPath (text : List Char) : (fileUrlPath text).IsPlain := by
  have hplain := isPlain_readPath true text
  unfold fileUrlPath
  split
  · next list hlist => exact isPlain_dropEmptySegments (hlist ▸ hplain)
  · exact hplain

theorem isPlain_of_readFile {text : List Char} {a : Authority} {path : Path}
    (hread : readFile text = .ok (a, path)) : a.IsPlain ∧ path.IsPlain := by
  have hnobody : ∀ host, Authority.IsPlain ⟨"", "", host, none⟩ := fun host => by
    simp [Authority.IsPlain]
  unfold readFile at hread
  dsimp only at hread
  split at hread
  · split at hread
    · split at hread
      · cases hread
        exact ⟨hnobody _, isPlain_fileUrlPath _⟩
      · obtain ⟨host, -, hread⟩ := exists_of_bind_eq_ok hread
        cases hread
        exact ⟨hnobody _, isPlain_fileUrlPath _⟩
    · cases hread
      exact ⟨hnobody _, isPlain_fileUrlPath (_ :: _ :: _)⟩
  · cases hread
    exact ⟨hnobody _, isPlain_fileUrlPath _⟩

theorem isPlain_of_readHierarchy {scheme : String} {followed : Bool} {text : List Char}
    {authority : Option Authority} {path : Path}
    (hread : readHierarchy scheme followed text = .ok (authority, path)) :
    (∀ a ∈ authority, a.IsPlain) ∧ path.IsPlain := by
  unfold readHierarchy at hread
  dsimp only at hread
  split at hread
  · obtain ⟨⟨a, found⟩, hfile, hread⟩ := exists_of_bind_eq_ok hread
    cases hread
    obtain ⟨ha, hpath⟩ := isPlain_of_readFile hfile
    exact ⟨fun _ hmem => Option.mem_some.mp hmem ▸ ha, hpath⟩
  · split at hread
    · obtain ⟨⟨a, left⟩, hauthority, hread⟩ := exists_of_bind_eq_ok hread
      cases hread
      exact ⟨fun _ hmem => Option.mem_some.mp hmem ▸ isPlain_of_readAuthority hauthority,
        isPlain_readPath _ _⟩
    · split at hread
      · cases hread
        exact ⟨nofun, isPlain_readSegments false _⟩
      · cases hread
        exact ⟨nofun, trivial⟩

/-- Nothing before the query of a parsed URL looks like the start of a query. -/
theorem isPlain_of_parse {text : String} {u : Url} (hparse : parse text = .ok u) :
    (∀ a ∈ u.authority, a.IsPlain) ∧ u.path.IsPlain := by
  unfold parse at hparse
  split at hparse
  · cases hparse
  · obtain ⟨⟨authority, path⟩, hread, hparse⟩ := exists_of_bind_eq_ok hparse
    cases hparse
    exact isPlain_of_readHierarchy hread

end CertCatalog.Url
