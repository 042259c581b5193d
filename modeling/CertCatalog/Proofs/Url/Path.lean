import CertCatalog.Proofs.Url.Percent
import CertCatalog.Url.Basic

/-!
# Growing paths

A path grows by one segment for each segment that is added to it, unless one of them has become a
step upwards.  The number of segments tells which of both has happened.
-/

namespace CertCatalog.Url

open CertCatalog.Bytes

/-! ## One segment -/

/-- Tabs and line breaks are dropped from what is added to a path. -/
def isKept (c : Char) : Bool :=
  c != '\t' && c != '\n' && c != '\r'

def isUnbroken (text : String) : Bool :=
  text.toList.all isKept

def encodedSegment (special : Bool) (segment : String) : String :=
  String.ofList (percentEncode (if special then specialSegmentSet else segmentSet)
    (segment.toList.filter isKept))

theorem pushSegment_eq (special : Bool) (segments : List String) (segment : String) :
    pushSegment special segments segment =
      if encodedSegment special segment = ".." then parentOf segments
      else if encodedSegment special segment = "." then appendSegment segments ""
      else appendSegment segments (encodedSegment special segment) := by
  simp only [pushSegment, beq_iff_eq]
  rfl

theorem isReversible_segmentSet_of (special : Bool) :
    IsReversible (if special then specialSegmentSet else segmentSet) := by
  cases special
  · exact isReversible_segmentSet
  · exact isReversible_specialSegmentSet

theorem percentDecode_encodedSegment (special : Bool) (segment : String) :
    percentDecode (encodedSegment special segment).toList =
      utf8 (String.ofList (segment.toList.filter isKept)) := by
  rw [encodedSegment, String.toList_ofList,
    percentDecode_percentEncode (isReversible_segmentSet_of special), utf8, String.toList_ofList]

theorem slash_not_mem_encodedSegment (special : Bool) (segment : String) :
    '/' ∉ (encodedSegment special segment).toList := by
  rw [encodedSegment, String.toList_ofList]
  exact not_mem_percentEncode (isReversible_segmentSet_of special).outside
    ⟨⟨0x2F, by decide, by cases special <;> decide⟩, by decide, by decide⟩ _

theorem ofList_filter_isKept_eq_self_iff (segment : String) :
    String.ofList (segment.toList.filter isKept) = segment ↔
      isUnbroken segment = true := by
  rw [← String.toList_inj, String.toList_ofList, List.filter_eq_self, isUnbroken, List.all_eq_true]

theorem percentDecode_encodedSegment_of_isUnbroken (special : Bool) {segment : String}
    (hkept : isUnbroken segment = true) :
    percentDecode (encodedSegment special segment).toList = utf8 segment := by
  rw [percentDecode_encodedSegment, (ofList_filter_isKept_eq_self_iff segment).mpr hkept]

theorem eq_of_encodedSegment_eq (special : Bool) {segment text : String}
    (hkept : isUnbroken segment = true)
    (htext : percentDecode text.toList = utf8 text) (heq : encodedSegment special segment = text) :
    segment = text := by
  apply utf8_injective
  rw [← htext, ← heq, percentDecode_encodedSegment_of_isUnbroken special hkept]

/-! ## One step of a path -/

theorem isRoot_eq_true_iff {segments : List String} :
    isRoot segments = true ↔ segments = [] ∨ segments = [""] := by
  simp [isRoot]

theorem isRoot_append_of_ne {segments : List String} {segment : String} (hne : segment ≠ "") :
    isRoot (segments ++ [segment]) = false := by
  rw [← Bool.not_eq_true, isRoot_eq_true_iff]
  rintro (hempty | hlone)
  · simp at hempty
  · have hlast := congrArg List.getLast? hlone
    simp [hne] at hlast

theorem appendSegment_ne_nil (segments : List String) (segment : String) :
    appendSegment segments segment ≠ [] := by
  unfold appendSegment
  split <;> simp

theorem pushSegment_ne_nil (special : Bool) (segments : List String) (segment : String) :
    pushSegment special segments segment ≠ [] := by
  rw [pushSegment_eq]
  split
  · simp [parentOf]
  · split <;> exact appendSegment_ne_nil _ _

theorem appendSegment_cases {segments : List String} (hne : segments ≠ []) (segment : String) :
    appendSegment segments segment = segments ++ [segment] ∨
      (appendSegment segments segment).length ≤ segments.length := by
  unfold appendSegment
  split
  · exact .inr (List.length_pos_iff.mpr hne)
  · exact .inl rfl

theorem exists_appendSegment (segments : List String) (segment : String) :
    ∃ front, appendSegment segments segment = front ++ [segment] := by
  unfold appendSegment
  split
  · exact ⟨[], rfl⟩
  · exact ⟨segments, rfl⟩

theorem pushSegment_ends (special : Bool) (segments : List String) (segment : String) :
    (∃ front, pushSegment special segments segment = front ++ [""]) ∨
      pushSegment special segments segment =
        appendSegment segments (encodedSegment special segment) := by
  rw [pushSegment_eq]
  split
  · exact .inl ⟨_, rfl⟩
  · split
    · exact .inl (exists_appendSegment segments "")
    · exact .inr rfl

theorem pushSegment_word {special : Bool} {word : String}
    (hword : encodedSegment special word = word ∧ word ≠ "." ∧ word ≠ "..")
    (segments : List String) :
    pushSegment special segments word = appendSegment segments word := by
  rw [pushSegment_eq, hword.1, if_neg hword.2.2, if_neg hword.2.1]

theorem length_parentOf_le {segments : List String} (hne : segments ≠ []) :
    (parentOf segments).length ≤ segments.length := by
  have hpos := List.length_pos_iff.mpr hne
  unfold parentOf
  split <;> simp <;> omega

/-- The text of an added segment once a single dot has become an empty segment. -/
def shownSegment (special : Bool) (segment : String) : String :=
  if encodedSegment special segment = "." then "" else encodedSegment special segment

/-- The step lemma: a path that grows has taken the segment as its last one. -/
theorem pushSegment_cases (special : Bool) {segments : List String} (hne : segments ≠ [])
    (segment : String) :
    pushSegment special segments segment = segments ++ [shownSegment special segment] ∨
      (pushSegment special segments segment).length ≤ segments.length := by
  rw [pushSegment_eq, shownSegment]
  split
  · exact .inr (length_parentOf_le hne)
  · split
    · exact appendSegment_cases hne ""
    · exact appendSegment_cases hne _

/-! ## Whole paths -/

/-- The run lemma: a path that has grown by all added segments holds them all in order. -/
theorem foldl_pushSegment_cases (special : Bool) {segments : List String} (hne : segments ≠ [])
    (added : List String) :
    added.foldl (pushSegment special) segments = segments ++ added.map (shownSegment special) ∨
      (added.foldl (pushSegment special) segments).length < segments.length + added.length := by
  -- Once a segment is missing, each of the rest can add only one, so the length never recovers.
  induction added generalizing segments with
  | nil => exact .inl (by simp)
  | cons segment rest ih =>
      rw [List.foldl_cons]
      have hnext := ih (pushSegment_ne_nil special segments segment)
      rcases pushSegment_cases special hne segment with happended | hshort
      · rw [happended] at hnext ⊢
        rcases hnext with hall | hfew
        · exact .inl (by rw [hall]; simp)
        · refine .inr (Nat.lt_of_lt_of_le hfew ?_)
          simp only [List.length_append, List.length_cons, List.length_nil]
          omega
      · refine .inr ?_
        rcases hnext with hall | hfew
        · rw [hall]
          simp only [List.length_append, List.length_map, List.length_cons]
          omega
        · simp only [List.length_cons]
          omega

theorem foldl_pushSegment_of_isUnbroken (special : Bool) {segments added : List String}
    (hroot : isRoot segments = false)
    (hkept : ∀ segment ∈ added, isUnbroken segment = true)
    (hstep : ∀ segment ∈ added, segment ≠ "" ∧ segment ≠ "." ∧ segment ≠ "..") :
    added.foldl (pushSegment special) segments =
      segments ++ added.map (encodedSegment special) := by
  induction added generalizing segments with
  | nil => simp
  | cons segment rest ih =>
      obtain ⟨hnonempty, hdot, hdots⟩ := hstep segment (by simp)
      have hclean := hkept segment (by simp)
      have hencoded : pushSegment special segments segment =
          segments ++ [encodedSegment special segment] := by
        rw [pushSegment_eq,
          if_neg fun heq => hdots (eq_of_encodedSegment_eq special hclean rfl heq),
          if_neg fun heq => hdot (eq_of_encodedSegment_eq special hclean rfl heq), appendSegment,
          hroot]
        rfl
      have hnext : isRoot (segments ++ [encodedSegment special segment]) = false :=
        isRoot_append_of_ne fun heq =>
          hnonempty (eq_of_encodedSegment_eq special hclean rfl heq)
      rw [List.foldl_cons, hencoded,
        ih hnext (fun other hother => hkept other (by simp [hother]))
          (fun other hother => hstep other (by simp [hother]))]
      simp

end CertCatalog.Url
