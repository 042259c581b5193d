import CertCatalog.Proofs.Url.Path

/-!
# Reading a path off a text

What follows the authority in the text of a URL tells its segments and its query apart, as long as
no segment holds a slash or a question mark.  The last segment can be told from the end of a text.
-/

namespace CertCatalog.Url

/-! ## Paths -/

def pathChars (segments : List String) : List Char :=
  segments.flatMap fun segment => '/' :: segment.toList

theorem toList_text_segments (segments : List String) :
    (Path.segments segments).text.toList = pathChars segments := by
  induction segments with
  | nil => rfl
  | cons segment rest ih =>
      have hjoin : (Path.segments (segment :: rest)).text =
          "/" ++ segment ++ (Path.segments rest).text := by
        simp [Path.text, String.join_cons]
      rw [hjoin, String.toList_append, String.toList_append, ih]
      rfl

@[simp] theorem pathChars_append (first second : List String) :
    pathChars (first ++ second) = pathChars first ++ pathChars second :=
  List.flatMap_append

/-- A segment ends at the first slash or question mark. -/
def IsSegment (segment : List Char) : Prop :=
  '/' ∉ segment ∧ '?' ∉ segment

/-- What can follow a segment: nothing, the next segment or a query. -/
def EndsSegment (text : List Char) : Prop :=
  ∀ c ∈ text.head?, c = '/' ∨ c = '?'

def EndsPath (text : List Char) : Prop :=
  ∀ c ∈ text.head?, c = '?'

theorem IsSegment.tail {c : Char} {rest : List Char} (h : IsSegment (c :: rest)) :
    IsSegment rest :=
  ⟨fun hmem => h.1 (List.mem_cons_of_mem c hmem), fun hmem => h.2 (List.mem_cons_of_mem c hmem)⟩

theorem not_endsSegment_append {c : Char} {rest : List Char} (h : IsSegment (c :: rest))
    (after : List Char) : ¬EndsSegment (c :: rest ++ after) := by
  intro hends
  rcases hends c rfl with rfl | rfl
  · exact h.1 List.mem_cons_self
  · exact h.2 List.mem_cons_self

theorem segment_append_inj {first second after following : List Char} (hfirst : IsSegment first)
    (hsecond : IsSegment second) (hafter : EndsSegment after) (hfollowing : EndsSegment following)
    (heq : first ++ after = second ++ following) : first = second ∧ after = following := by
  induction first generalizing second with
  | nil =>
      cases second with
      | nil => exact ⟨rfl, heq⟩
      | cons d rest => exact absurd (heq ▸ hafter) (not_endsSegment_append hsecond following)
  | cons c rest ih =>
      cases second with
      | nil => exact absurd (heq ▸ hfollowing) (not_endsSegment_append hfirst after)
      | cons d others =>
          obtain ⟨rfl, htails⟩ := List.cons.inj heq
          obtain ⟨rfl, hends⟩ := ih hfirst.tail hsecond.tail htails
          exact ⟨rfl, hends⟩

theorem endsSegment_pathChars_append (segments : List String) {query : List Char}
    (hquery : EndsPath query) : EndsSegment (pathChars segments ++ query) := by
  cases segments with
  | nil => exact fun c hc => .inr (hquery c hc)
  | cons segment rest =>
      intro c hc
      exact .inl (Option.mem_some.mp hc).symm

/-- A path and the query behind it are told by their characters. -/
theorem pathChars_append_inj {first second : List String} {query other : List Char}
    (hfirst : ∀ segment ∈ first, IsSegment segment.toList)
    (hsecond : ∀ segment ∈ second, IsSegment segment.toList) (hquery : EndsPath query)
    (hother : EndsPath other) (heq : pathChars first ++ query = pathChars second ++ other) :
    first = second ∧ query = other := by
  induction first generalizing second with
  | nil =>
      cases second with
      | nil => exact ⟨rfl, heq⟩
      | cons segment rest =>
          have hslash := hquery '/' (by rw [← List.nil_append query]; exact congrArg _ heq)
          cases hslash
  | cons segment rest ih =>
      cases second with
      | nil =>
          have hslash := hother '/' (by rw [← List.nil_append other]; exact congrArg _ heq.symm)
          cases hslash
      | cons segment' others =>
          simp only [pathChars, List.flatMap_cons, List.cons_append, List.append_assoc] at heq
          obtain ⟨hsegment, hrest⟩ := segment_append_inj (hfirst segment (by simp))
            (hsecond segment' (by simp)) (endsSegment_pathChars_append rest hquery)
            (endsSegment_pathChars_append others hother) (List.cons.inj heq).2
          obtain rfl := String.toList_injective hsegment
          obtain ⟨rfl, hends⟩ := ih (fun s hs => hfirst s (by simp [hs]))
            (fun s hs => hsecond s (by simp [hs])) hrest
          exact ⟨rfl, hends⟩

theorem isSegment_reverse {segment : List Char} (h : IsSegment segment) :
    IsSegment segment.reverse :=
  ⟨fun hmem => h.1 (List.mem_reverse.mp hmem), fun hmem => h.2 (List.mem_reverse.mp hmem)⟩

theorem last_segment_inj {first second before earlier : List Char} (hfirst : IsSegment first)
    (hsecond : IsSegment second) (heq : before ++ '/' :: first = earlier ++ '/' :: second) :
    before = earlier ∧ first = second := by
  have hturned := congrArg List.reverse heq
  simp only [List.reverse_append, List.reverse_cons, List.append_assoc,
    List.singleton_append] at hturned
  have hslash : ∀ text : List Char, EndsSegment ('/' :: text) :=
    fun _ c hc => .inl (Option.mem_some.mp hc).symm
  obtain ⟨hlast, hrest⟩ := segment_append_inj (isSegment_reverse hfirst)
    (isSegment_reverse hsecond) (hslash _) (hslash _) hturned
  exact ⟨List.reverse_inj.mp (List.cons.inj hrest).2, List.reverse_inj.mp hlast⟩

/-! ## Whole URLs -/

def queryChars : Option String → List Char
  | some query => '?' :: query.toList
  | none => []

theorem queryChars_injective : Function.Injective queryChars := by
  intro first second heq
  cases first <;> cases second
  · rfl
  · cases heq
  · cases heq
  · rw [String.toList_injective (List.cons.inj heq).2]

theorem endsPath_queryChars (query : Option String) : EndsPath (queryChars query) := by
  cases query with
  | none => exact nofun
  | some query => exact fun c hc => (Option.mem_some.mp hc).symm

theorem toList_text {u : Url} {a : Authority} {segments : List String}
    (hauthority : u.authority = some a) (hpath : u.path = .segments segments)
    (hfragment : u.fragment = none) :
    u.text.toList =
      (u.scheme ++ "://" ++ a.text).toList ++ (pathChars segments ++ queryChars u.query) := by
  rw [← toList_text_segments]
  cases hquery : u.query with
  | none => simp [text, startText, hauthority, hpath, hfragment, hquery, queryChars]
  | some query => simp [text, startText, hauthority, hpath, hfragment, hquery, queryChars]

def beforeQuery (text : String) : List Char :=
  text.toList.takeWhile (· != '?')

theorem beforeQuery_text {u : Url} {a : Authority} {segments : List String}
    (hauthority : u.authority = some a) (hpath : u.path = .segments segments)
    (hfragment : u.fragment = none) (hstart : '?' ∉ (u.scheme ++ "://" ++ a.text).toList)
    (hsegments : '?' ∉ pathChars segments) :
    beforeQuery u.text = (u.scheme ++ "://" ++ a.text).toList ++ pathChars segments := by
  have hkept : ∀ c ∈ (u.scheme ++ "://" ++ a.text).toList ++ pathChars segments,
      (c != '?') = true := by
    intro c hc
    rw [bne_iff_ne]
    rintro rfl
    exact (List.mem_append.mp hc).elim hstart hsegments
  have hquery : (queryChars u.query).takeWhile (· != '?') = [] := by
    cases u.query <;> rfl
  rw [beforeQuery, toList_text hauthority hpath hfragment, ← List.append_assoc,
    List.takeWhile_append_of_pos hkept, hquery, List.append_nil]

theorem query_addQuery_ne (u : Url) (name value : String) :
    (u.addQuery [(name, value)]).query ≠ u.query := by
  have hadded : String.intercalate "&" [name ++ "=" ++ value] = name ++ "=" ++ value := rfl
  intro hsame
  simp only [addQuery, List.map_cons, List.map_nil, hadded] at hsame
  cases hquery : u.query with
  | none => simp [hquery, String.isEmpty_iff] at hsame
  | some query =>
      by_cases hempty : query = ""
      · simp [hquery, hempty, String.isEmpty_iff] at hsame
      · simp only [hquery, Option.getD_some, String.isEmpty_iff, hempty, if_false] at hsame
        split at hsame
        · cases hsame
        · have hlength := congrArg String.length (Option.some.inj hsame)
          have hmark : "&".length = 1 := rfl
          simp only [String.length_append] at hlength
          omega

end CertCatalog.Url
