import CertCatalog.Text.Split

/-!
# Cutting at a separator

Two texts with a separator between them are cut apart again as long as the first one does not hold
the separator itself.
-/

namespace CertCatalog.Text

theorem splitFirst?_append_cons (separates : Char → Bool) {c : Char} (hc : separates c = true)
    {before : List Char} (hbefore : ∀ d ∈ before, separates d = false) (after : List Char) :
    splitFirst? separates (before ++ c :: after) = some (before, after) := by
  induction before with
  | nil => simp [splitFirst?, hc]
  | cons d before ih =>
      have hd := hbefore d (by simp)
      have hrest := ih fun x hx => hbefore x (by simp [hx])
      simp [splitFirst?, hd, hrest]

theorem cut?_append_separator {separator : Char} {before : String}
    (hbefore : separator ∉ before.toList) (after : String) :
    cut? (before ++ String.singleton separator ++ after) separator = some (before, after) := by
  have hseparates : (separator == separator) = true := beq_self_eq_true separator
  have hplain : ∀ d ∈ before.toList, (d == separator) = false :=
    fun d hd => beq_eq_false_iff_ne.mpr fun heq => hbefore (heq ▸ hd)
  have hsplit := splitFirst?_append_cons (· == separator) hseparates hplain after.toList
  simp only [cut?, String.toList_append, String.toList_singleton, List.append_assoc,
    List.singleton_append, hsplit, Option.map_some, String.ofList_toList]

theorem exists_cut_of_mem {separator : Char} {text : String} (hmem : separator ∈ text.toList) :
    ∃ before after, separator ∉ before.toList ∧
      text = before ++ String.singleton separator ++ after := by
  obtain ⟨before, after, htext, hbefore⟩ := List.eq_append_cons_of_mem hmem
  refine ⟨String.ofList before, String.ofList after, by simpa using hbefore, ?_⟩
  apply String.toList_injective
  simp [htext]

theorem cut?_of_not_mem {separator : Char} {text : String} (hplain : separator ∉ text.toList) :
    cut? text separator = none := by
  have hsplit : ∀ list : List Char, separator ∉ list →
      splitFirst? (· == separator) list = none := by
    intro list hlist
    induction list with
    | nil => rfl
    | cons c rest ih =>
        obtain ⟨hc, hrest⟩ := not_or.mp (mt List.mem_cons.mpr hlist)
        have hkeep : (c == separator) = false := beq_eq_false_iff_ne.mpr (Ne.symm hc)
        simp [splitFirst?, hkeep, ih hrest]
  rw [cut?, hsplit _ hplain]
  rfl

theorem cut?_eq_some_iff {separator : Char} {text before after : String} :
    cut? text separator = some (before, after) ↔
      separator ∉ before.toList ∧ text = before ++ String.singleton separator ++ after := by
  constructor
  · intro hcut
    by_cases hmem : separator ∈ text.toList
    · obtain ⟨front, back, hfront, rfl⟩ := exists_cut_of_mem hmem
      rw [cut?_append_separator hfront] at hcut
      obtain ⟨rfl, rfl⟩ := Prod.mk.inj (Option.some.inj hcut)
      exact ⟨hfront, rfl⟩
    · rw [cut?_of_not_mem hmem] at hcut
      contradiction
  · rintro ⟨hbefore, rfl⟩
    exact cut?_append_separator hbefore after

/-! ## All parts -/

theorem intercalate_splitBy (separator : Char) (text : List Char) :
    List.intercalate [separator] (splitBy (· == separator) text) = text := by
  induction text with
  | nil => rfl
  | cons c rest ih =>
      unfold splitBy
      split
      · next hc =>
          obtain rfl : c = separator := eq_of_beq hc
          cases hparts : splitBy (· == c) rest with
          | nil => exact absurd hparts (splitBy_ne_nil _ rest)
          | cons part parts =>
              rw [hparts] at ih
              rw [List.intercalate_cons_cons, ih]
              rfl
      · split
        · next hparts => exact absurd hparts (splitBy_ne_nil _ rest)
        · next part parts hparts =>
            rw [hparts] at ih
            cases parts with
            | nil => simpa [List.intercalate] using ih
            | cons next parts =>
                rw [List.intercalate_cons_cons] at ih ⊢
                rw [List.cons_append, List.cons_append, ih]

theorem joinWith_splitOn (separator : Char) (text : String) :
    joinWith (String.singleton separator) (splitOn text separator) = text := by
  apply String.toList_injective
  rw [joinWith, String.toList_intercalate, String.toList_singleton, splitOn, List.map_map]
  simp [intercalate_splitBy]

theorem splitOn_injective (separator : Char) :
    Function.Injective fun text : String => splitOn text separator :=
  Function.LeftInverse.injective (joinWith_splitOn separator)

theorem splitBy_append_left (separates : Char → Bool) {front : List Char}
    (hfront : ∀ c ∈ front, separates c = false) (text : List Char) :
    splitBy separates (front ++ text) = (splitBy separates text).modifyHead (front ++ ·) := by
  induction front with
  | nil =>
      rw [List.nil_append]
      cases splitBy separates text <;> rfl
  | cons c front ih =>
      obtain ⟨hc, hrest⟩ := List.forall_mem_cons.mp hfront
      rw [List.cons_append, splitBy, ih hrest, hc, if_neg Bool.false_ne_true]
      cases hparts : splitBy separates text with
      | nil => exact absurd hparts (splitBy_ne_nil separates text)
      | cons part parts => rfl

theorem splitBy_of_plain (separates : Char → Bool) {text : List Char}
    (hplain : ∀ c ∈ text, separates c = false) : splitBy separates text = [text] := by
  have hparts := splitBy_append_left separates hplain []
  simpa [splitBy] using hparts

/-- What is appended without a separator belongs to the last part. -/
theorem exists_splitBy_append_right (separates : Char → Bool) {back : List Char}
    (hback : ∀ c ∈ back, separates c = false) (text : List Char) :
    ∃ parts last, splitBy separates text = parts ++ [last] ∧
      splitBy separates (text ++ back) = parts ++ [last ++ back] := by
  induction text with
  | nil => exact ⟨[], [], rfl, splitBy_of_plain separates hback⟩
  | cons c rest ih =>
      obtain ⟨parts, last, hrest, hlonger⟩ := ih
      rw [List.cons_append, splitBy, splitBy, hrest, hlonger]
      split
      · exact ⟨[] :: parts, last, rfl, rfl⟩
      · cases parts with
        | nil => exact ⟨[], c :: last, rfl, rfl⟩
        | cons part parts => exact ⟨(c :: part) :: parts, last, rfl, rfl⟩

theorem splitBy_intercalate {separator : Char} {parts : List (List Char)} (hne : parts ≠ [])
    (hplain : ∀ part ∈ parts, ∀ c ∈ part, (c == separator) = false) :
    splitBy (· == separator) (List.intercalate [separator] parts) = parts := by
  induction parts with
  | nil => contradiction
  | cons part rest ih =>
      obtain ⟨hpart, hrest⟩ := List.forall_mem_cons.mp hplain
      cases rest with
      | nil => simpa [List.intercalate] using splitBy_of_plain (· == separator) hpart
      | cons next rest =>
          rw [List.intercalate_cons_cons, List.append_assoc, splitBy_append_left _ hpart,
            List.singleton_append, splitBy, if_pos (beq_self_eq_true separator),
            ih (List.cons_ne_nil _ _) hrest]
          simp

theorem splitOn_joinWith {separator : Char} {texts : List String} (hne : texts ≠ [])
    (hplain : ∀ text ∈ texts, separator ∉ text.toList) :
    splitOn (joinWith (String.singleton separator) texts) separator = texts := by
  have hchars : ∀ part ∈ texts.map String.toList, ∀ c ∈ part, (c == separator) = false := by
    rw [List.forall_mem_map]
    exact fun text hmem c hc => beq_eq_false_iff_ne.mpr fun heq => hplain text hmem (heq ▸ hc)
  rw [splitOn, joinWith, String.toList_intercalate, String.toList_singleton,
    splitBy_intercalate (by simpa using hne) hchars, List.map_map]
  simp

theorem splitBy_append_cons (separates : Char → Bool) {c : Char} (hc : separates c = true)
    (front rest : List Char) :
    splitBy separates (front ++ c :: rest) = splitBy separates front ++ splitBy separates rest := by
  induction front with
  | nil => simp [splitBy, hc]
  | cons d front ih =>
      rw [List.cons_append, splitBy, splitBy, ih]
      split
      · rfl
      · cases hparts : splitBy separates front with
        | nil => exact absurd hparts (splitBy_ne_nil _ front)
        | cons part parts => rfl

theorem splitBy_append_separator (separates : Char → Bool) {c : Char} (hc : separates c = true)
    (text : List Char) : splitBy separates (text ++ [c]) = splitBy separates text ++ [[]] :=
  splitBy_append_cons separates hc text []

theorem splitOn_append_separator (front rest : String) (separator : Char) :
    splitOn (front ++ String.singleton separator ++ rest) separator =
      splitOn front separator ++ splitOn rest separator := by
  have hseparates : (separator == separator) = true := beq_self_eq_true separator
  have hparts := splitBy_append_cons (· == separator) hseparates front.toList rest.toList
  simp only [splitOn, String.toList_append, String.toList_singleton, List.append_assoc,
    List.singleton_append, hparts, List.map_append]

theorem splitOn_of_notMem {separator : Char} {text : String} (hplain : separator ∉ text.toList) :
    splitOn text separator = [text] := by
  have hparts : splitBy (· == separator) text.toList = [text.toList] :=
    splitBy_of_plain _ fun c hc => beq_eq_false_iff_ne.mpr fun heq => hplain (heq ▸ hc)
  rw [splitOn, hparts, List.map_singleton, String.ofList_toList]

theorem forall_mem_splitOn_iff {separator : Char} {p : Char → Bool} (hseparator : p separator = true)
    (text : String) :
    (∀ part ∈ splitOn text separator, part.toList.all p = true) ↔ text.toList.all p = true := by
  have hchars : ∀ text : List Char,
      (∀ part ∈ splitBy (· == separator) text, part.all p = true) ↔ text.all p = true := by
    intro text
    induction text with
    | nil => simp [splitBy]
    | cons c rest ih =>
        by_cases hc : c = separator
        · subst hc
          simp [splitBy, hseparator, ← ih]
        · cases hparts : splitBy (· == separator) rest with
          | nil => exact absurd hparts (splitBy_ne_nil _ rest)
          | cons part parts =>
              rw [hparts] at ih
              simp [splitBy, hc, hparts, ← ih, and_assoc]
  rw [← hchars, splitOn, List.forall_mem_map]
  simp only [String.toList_ofList]

theorem separator_notMem_of_mem_splitOn {separator : Char} {text part : String}
    (hpart : part ∈ splitOn text separator) : separator ∉ part.toList := by
  have hchars : ∀ text : List Char, ∀ part ∈ splitBy (· == separator) text, separator ∉ part := by
    intro text
    induction text with
    | nil => simp [splitBy]
    | cons c rest ih =>
        by_cases hc : c = separator
        · subst hc
          simpa [splitBy] using ih
        · cases hparts : splitBy (· == separator) rest with
          | nil => exact absurd hparts (splitBy_ne_nil _ rest)
          | cons first parts =>
              rw [hparts] at ih
              simpa [splitBy, hc, hparts, Ne.symm hc] using ih
  obtain ⟨chars, hmem, rfl⟩ := List.mem_map.mp hpart
  rw [String.toList_ofList]
  exact hchars text.toList chars hmem

theorem ne_separator_of_splitOn {separator : Char} {text : String}
    (hparts : "" ∉ splitOn text separator) :
    (∀ c ∈ text.toList.head?, c ≠ separator) ∧ ∀ c ∈ text.toList.getLast?, c ≠ separator := by
  constructor
  · rintro c hc rfl
    refine hparts (List.mem_map.mpr ⟨[], ?_, rfl⟩)
    cases htext : text.toList with
    | nil => simp [htext] at hc
    | cons d rest =>
        obtain rfl : d = c := by simpa [htext] using hc
        simp [splitBy]
  · rintro c hc rfl
    refine hparts (List.mem_map.mpr ⟨[], ?_, rfl⟩)
    obtain ⟨front, hfront⟩ := List.getLast?_eq_some_iff.mp hc
    have hsplit := splitBy_append_separator (· == c) (beq_self_eq_true c) front
    simp [hfront, hsplit]

end CertCatalog.Text
