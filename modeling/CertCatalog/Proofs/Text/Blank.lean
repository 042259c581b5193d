import CertCatalog.Text.Blank
import Mathlib.Data.List.TakeWhile

/-!
# Ends of texts

Trimming removes the blanks at the two ends of a text and nothing else.  A character that is not
blank shields everything on its inner side.
-/

namespace CertCatalog.Text

/-! ## Blank ends -/

def hasLeadingBlank (text : String) : Bool :=
  text.toList.head?.any isBlank

def hasTrailingBlank (text : String) : Bool :=
  text.toList.getLast?.any isBlank

def trimEnd (text : String) : String :=
  String.ofList (dropTrailingBlanks text.toList)

/-! ## Characters -/

theorem dropBlanks_of_head {text : List Char} (hhead : text.head?.any isBlank = false) :
    dropBlanks text = text := by
  cases text with
  | nil => rfl
  | cons c rest =>
      have hc : isBlank c = false := by simpa using hhead
      simp [dropBlanks, hc]

theorem head_dropBlanks (text : List Char) : (dropBlanks text).head?.any isBlank = false := by
  have hstop := List.head?_dropWhile_not isBlank text
  unfold dropBlanks
  cases hhead : (text.dropWhile isBlank).head? with
  | none => rfl
  | some c =>
      rw [hhead] at hstop
      exact hstop

theorem dropTrailingBlanks_append_cons {c : Char} (hc : isBlank c = false)
    (before after : List Char) :
    dropTrailingBlanks (before ++ c :: after) = before ++ c :: dropTrailingBlanks after := by
  unfold dropTrailingBlanks
  rw [List.reverse_append, List.reverse_cons, List.append_assoc, List.dropWhile_append]
  split
  · next hempty =>
      have hnil : after.reverse.dropWhile isBlank = [] := List.isEmpty_iff.mp hempty
      simp [hnil, hc]
  · simp

theorem getLast_dropTrailingBlanks (text : List Char) :
    (dropTrailingBlanks text).getLast?.any isBlank = false := by
  rw [dropTrailingBlanks, List.getLast?_reverse]
  exact head_dropBlanks text.reverse

theorem dropTrailingBlanks_eq_self_iff (text : List Char) :
    dropTrailingBlanks text = text ↔ text.getLast?.any isBlank = false := by
  constructor
  · intro hsame
    rw [← hsame]
    exact getLast_dropTrailingBlanks text
  · intro hlast
    have hfront : dropBlanks text.reverse = text.reverse :=
      dropBlanks_of_head (by rw [List.head?_reverse]; exact hlast)
    rw [dropTrailingBlanks, ← dropBlanks, hfront, List.reverse_reverse]

theorem trimChars_append_cons {c : Char} (hc : isBlank c = false) {before : List Char}
    (hhead : before.head?.any isBlank = false) (after : List Char) :
    trimChars (before ++ c :: after) = before ++ c :: dropTrailingBlanks after := by
  have hfront : dropBlanks (before ++ c :: after) = before ++ c :: after := by
    apply dropBlanks_of_head
    cases before with
    | nil => simpa using hc
    | cons d rest => simpa using hhead
  rw [trimChars, hfront, dropTrailingBlanks_append_cons hc]

theorem dropBlanks_blanks_append {blanks : List Char} (hblank : ∀ c ∈ blanks, isBlank c = true)
    (text : List Char) : dropBlanks (blanks ++ text) = dropBlanks text :=
  List.dropWhile_append_of_pos hblank

theorem dropTrailingBlanks_append_blanks {blanks : List Char}
    (hblank : ∀ c ∈ blanks, isBlank c = true) (text : List Char) :
    dropTrailingBlanks (text ++ blanks) = dropTrailingBlanks text := by
  have hreverse : ∀ c ∈ blanks.reverse, isBlank c = true :=
    fun c hc => hblank c (List.mem_reverse.mp hc)
  have hdrop := dropBlanks_blanks_append hreverse text.reverse
  rw [dropTrailingBlanks, List.reverse_append, ← dropBlanks, hdrop, dropBlanks,
    ← dropTrailingBlanks]

theorem trimChars_blanks_append {blanks : List Char} (hblank : ∀ c ∈ blanks, isBlank c = true)
    (text : List Char) : trimChars (blanks ++ text) = trimChars text := by
  rw [trimChars, dropBlanks_blanks_append hblank, ← trimChars]

theorem trimChars_append_blanks {blanks : List Char} (hblank : ∀ c ∈ blanks, isBlank c = true)
    (text : List Char) : trimChars (text ++ blanks) = trimChars text := by
  have hnone : dropBlanks blanks = [] := List.dropWhile_eq_nil_iff.mpr hblank
  rw [trimChars, trimChars, dropBlanks, List.dropWhile_append]
  split
  · next hempty =>
      have hnil : dropBlanks text = [] := List.isEmpty_iff.mp hempty
      rw [← dropBlanks, hnone, hnil]
  · exact dropTrailingBlanks_append_blanks hblank _

theorem exists_blanks_around (text : List Char) :
    ∃ front back, (∀ c ∈ front, isBlank c = true) ∧ (∀ c ∈ back, isBlank c = true) ∧
      text = front ++ trimChars text ++ back := by
  have hfront : text.takeWhile isBlank ++ dropBlanks text = text := List.takeWhile_append_dropWhile
  have hback := List.takeWhile_append_dropWhile (p := isBlank) (l := (dropBlanks text).reverse)
  refine ⟨text.takeWhile isBlank, ((dropBlanks text).reverse.takeWhile isBlank).reverse,
    fun c hc => List.mem_takeWhile_imp hc,
    fun c hc => List.mem_takeWhile_imp (List.mem_reverse.mp hc), ?_⟩
  have hkept : trimChars text ++ ((dropBlanks text).reverse.takeWhile isBlank).reverse =
      dropBlanks text := by
    rw [trimChars, dropTrailingBlanks, ← List.reverse_append, hback, List.reverse_reverse]
  rw [List.append_assoc, hkept, hfront]

/-! ## Texts -/

@[simp] theorem toList_trimEnd (text : String) :
    (trimEnd text).toList = dropTrailingBlanks text.toList :=
  String.toList_ofList

theorem trimEnd_eq_self_iff (text : String) :
    trimEnd text = text ↔ hasTrailingBlank text = false := by
  rw [← String.toList_inj, toList_trimEnd, dropTrailingBlanks_eq_self_iff, hasTrailingBlank]

theorem trim_of_isAllBlank {text : String} (hblank : isAllBlank text = true) : trim text = "" := by
  have hnil : dropBlanks text.toList = [] := by
    rw [dropBlanks, List.dropWhile_eq_nil_iff]
    exact List.all_eq_true.mp hblank
  rw [trim, trimChars, hnil]
  rfl

theorem hasLeadingBlank_trim (text : String) : hasLeadingBlank (trim text) = false := by
  rw [hasLeadingBlank, trim, String.toList_ofList, trimChars]
  have hhead := head_dropBlanks text.toList
  cases hfront : dropBlanks text.toList with
  | nil => rfl
  | cons c rest =>
      have hc : isBlank c = false := by simpa [hfront] using hhead
      have hkeep := dropTrailingBlanks_append_cons hc [] rest
      rw [List.nil_append, List.nil_append] at hkeep
      rw [hkeep]
      simpa using hc

theorem mem_of_mem_trim {c : Char} {text : String} (hmem : c ∈ (trim text).toList) :
    c ∈ text.toList := by
  rw [trim, String.toList_ofList, trimChars, dropTrailingBlanks, List.mem_reverse] at hmem
  have hfront := List.mem_reverse.mp ((List.dropWhile_suffix isBlank).subset hmem)
  exact (List.dropWhile_suffix isBlank).subset hfront

theorem countP_dropBlanks (text : List Char) :
    (dropBlanks text).countP (!isBlank ·) = text.countP (!isBlank ·) := by
  induction text with
  | nil => rfl
  | cons c rest ih =>
      by_cases hc : isBlank c = true
      · simpa [dropBlanks, hc] using ih
      · simp [dropBlanks, hc]

theorem countP_trim (text : String) :
    (trim text).toList.countP (!isBlank ·) = text.toList.countP (!isBlank ·) := by
  rw [trim, String.toList_ofList, trimChars, dropTrailingBlanks, ← dropBlanks, List.countP_reverse,
    countP_dropBlanks, List.countP_reverse, countP_dropBlanks]

theorem trim_eq_self_iff (text : String) :
    trim text = text ↔ hasLeadingBlank text = false ∧ hasTrailingBlank text = false := by
  constructor
  · intro htrim
    refine ⟨htrim ▸ hasLeadingBlank_trim text, ?_⟩
    rw [← htrim, hasTrailingBlank, trim, String.toList_ofList]
    exact getLast_dropTrailingBlanks _
  · rintro ⟨hlead, htrail⟩
    rw [← String.toList_inj, trim, String.toList_ofList, trimChars, dropBlanks_of_head hlead]
    exact (dropTrailingBlanks_eq_self_iff _).mpr htrail

@[simp] theorem trim_trim (text : String) : trim (trim text) = trim text := by
  refine (trim_eq_self_iff _).mpr ⟨hasLeadingBlank_trim text, ?_⟩
  rw [hasTrailingBlank, trim, String.toList_ofList]
  exact getLast_dropTrailingBlanks _

theorem trim_eq_empty_iff (text : String) : trim text = "" ↔ isAllBlank text = true := by
  refine ⟨fun htrim => ?_, trim_of_isAllBlank⟩
  rw [← String.toList_eq_nil_iff, trim, String.toList_ofList, trimChars, dropTrailingBlanks,
    List.reverse_eq_nil_iff, List.dropWhile_eq_nil_iff] at htrim
  have hhead := head_dropBlanks text.toList
  cases hfront : dropBlanks text.toList with
  | nil => exact List.all_eq_true.mpr (List.dropWhile_eq_nil_iff.mp hfront)
  | cons c rest =>
      have hc : isBlank c = true := htrim c (by simp [hfront])
      simp [hfront, hc] at hhead

theorem isAllBlank_eq_false_of_trim {text : String} (htrimmed : trim text = text)
    (hne : text ≠ "") : isAllBlank text = false := by
  rw [← Bool.not_eq_true, ← trim_eq_empty_iff, htrimmed]
  exact hne

theorem nonBlank?_eq_some_iff {text kept : String} :
    nonBlank? text = some kept ↔ isAllBlank text = false ∧ kept = trim text := by
  unfold nonBlank?
  dsimp only
  by_cases hblank : isAllBlank text = true
  · simp [trim_of_isAllBlank hblank, hblank]
  · have hne : trim text ≠ "" := fun hempty => hblank ((trim_eq_empty_iff text).mp hempty)
    simp only [String.isEmpty_iff, hne, if_false, Option.some.injEq, hblank, true_and]
    exact eq_comm

/-! ## Trimmed texts -/

def IsTrimmed (text : String) : Prop :=
  trim text = text ∧ text ≠ ""

theorem isTrimmed_trim {text : String} (hblank : isAllBlank text = false) :
    IsTrimmed (trim text) := by
  refine ⟨trim_trim text, fun hempty => ?_⟩
  rw [(trim_eq_empty_iff text).mp hempty] at hblank
  cases hblank

theorem isTrimmed_of_nonBlank? {text kept : String} (hkept : nonBlank? text = some kept) :
    IsTrimmed kept := by
  obtain ⟨hblank, rfl⟩ := nonBlank?_eq_some_iff.mp hkept
  exact isTrimmed_trim hblank

theorem nonBlank?_of_isTrimmed {text : String} (htrimmed : IsTrimmed text) :
    nonBlank? text = some text :=
  nonBlank?_eq_some_iff.mpr
    ⟨isAllBlank_eq_false_of_trim htrimmed.1 htrimmed.2, htrimmed.1.symm⟩

theorem nonBlank?_eq_none_iff {text : String} : nonBlank? text = none ↔ isAllBlank text = true := by
  rw [← trim_eq_empty_iff, nonBlank?]
  simp

theorem nonBlank?_eq_ite (text : String) :
    nonBlank? text = if isAllBlank text then none else some (trim text) := by
  split
  · next hblank => exact nonBlank?_eq_none_iff.mpr hblank
  · next hblank => exact nonBlank?_eq_some_iff.mpr ⟨by simpa using hblank, rfl⟩

theorem nonBlank?_getD (text other : String) :
    (nonBlank? text).getD other = if isAllBlank text then other else trim text := by
  rw [nonBlank?_eq_ite]
  split <;> rfl

theorem isTrimmed_getD_nonBlank? {text other : String} (hother : IsTrimmed other) :
    IsTrimmed ((nonBlank? text).getD other) := by
  cases hkept : nonBlank? text with
  | none => exact hother
  | some kept => exact isTrimmed_of_nonBlank? hkept

theorem isTrimmed_of_bind_nonBlank? {option : Option String} {text : String}
    (htext : option.bind nonBlank? = some text) : IsTrimmed text := by
  obtain ⟨given, -, hkept⟩ := Option.bind_eq_some_iff.mp htext
  exact isTrimmed_of_nonBlank? hkept

theorem bind_nonBlank?_eq_self {option : Option String}
    (htrimmed : ∀ text, option = some text → IsTrimmed text) : option.bind nonBlank? = option := by
  cases option with
  | none => rfl
  | some text =>
      rw [Option.bind_some]
      exact nonBlank?_of_isTrimmed (htrimmed text rfl)

end CertCatalog.Text
