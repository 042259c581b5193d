import CertCatalog.Pem
import Mathlib.Data.List.TakeWhile

/-!
# The first block of a text

A block is the first begin line of a text, the first end line after it and the lines between the
two.  What stands before the begin line or after the mark of the end line makes no difference, on
the end line itself as little as below it.
-/

namespace CertCatalog.Pem

open CertCatalog.Bytes

/-! ## Lines -/

theorem lines_cons_of_ne {c : Char} (hc : c ≠ '\n') (rest : List Char) :
    lines (c :: rest) = (c :: (lines rest).headD []) :: (lines rest).tail := by
  rw [lines, if_neg (by simpa using hc)]
  cases lines rest <;> rfl

theorem lines_append_lineFeed {line : List Char} (hline : '\n' ∉ line) (rest : List Char) :
    lines (line ++ '\n' :: rest) = (line ++ ['\n']) :: lines rest := by
  induction line with
  | nil => rfl
  | cons c line ih =>
      obtain ⟨hc, hline⟩ := not_or.mp (mt List.mem_cons.mpr hline)
      rw [List.cons_append, lines_cons_of_ne (Ne.symm hc), ih hline]
      rfl

theorem lines_flatMap_append {front : List (List Char)} (hfront : ∀ line ∈ front, '\n' ∉ line)
    (rest : List Char) :
    lines (front.flatMap (· ++ ['\n']) ++ rest) = front.map (· ++ ['\n']) ++ lines rest := by
  induction front with
  | nil => rfl
  | cons line front ih =>
      obtain ⟨hline, hfront⟩ := List.forall_mem_cons.mp hfront
      rw [List.flatMap_cons, List.append_assoc, List.append_assoc, List.singleton_append,
        lines_append_lineFeed hline, ih hfront]
      rfl

/-- A text that goes on keeps its lines, of which only the last one may go on as well. -/
theorem exists_lines_append {text : List Char} {front : List (List Char)} {line : List Char}
    {back : List (List Char)} (hlines : lines text = front ++ line :: back) (more : List Char) :
    ∃ ending after, lines (text ++ more) = front ++ (line ++ ending) :: after := by
  induction text generalizing front line back with
  | nil => simp [lines] at hlines
  | cons c rest ih =>
      by_cases hc : c = '\n'
      · subst hc
        cases front with
        | nil =>
            obtain ⟨rfl, -⟩ := List.cons.inj hlines
            exact ⟨[], lines (rest ++ more), rfl⟩
        | cons first front =>
            obtain ⟨rfl, hrest⟩ := List.cons.inj hlines
            obtain ⟨ending, after, hmore⟩ := ih hrest
            exact ⟨ending, after, congrArg (['\n'] :: ·) hmore⟩
      · rw [List.cons_append, lines_cons_of_ne hc]
        rw [lines_cons_of_ne hc] at hlines
        cases hrest : lines rest with
        | nil =>
            rw [hrest] at hlines
            -- The text is a single character, and its line goes on with the first line of the rest.
            obtain ⟨rfl, hline⟩ : front = [] ∧ [c] = line := by
              cases front <;> simp_all
            exact ⟨_, _, by rw [← hline]; rfl⟩
        | cons head tail =>
            rw [hrest] at hlines
            cases front with
            | nil =>
                obtain ⟨rfl, rfl⟩ := List.cons.inj hlines
                have hhead : lines rest = [] ++ head :: tail := hrest
                obtain ⟨ending, after, hmore⟩ := ih hhead
                exact ⟨ending, after, by rw [hmore]; rfl⟩
            | cons first front =>
                obtain ⟨rfl, rfl⟩ := List.cons.inj hlines
                have hlater : lines rest = (head :: front) ++ line :: back := hrest
                obtain ⟨ending, after, hmore⟩ := ih hlater
                exact ⟨ending, after, by rw [hmore]; rfl⟩

/-! ## Blocks -/

/-- The lines hold a block, set off from what plays no part in it. -/
inductive HoldsBlock : List (List Char) → Block → Prop
  | intro {front : List (List Char)} {header : List Char} {body : List (List Char)}
      {ending : List Char} {label : List Char} {contents : Bytes}
      (hfront : ∀ line ∈ front, isBegin line = false) (hheader : isBegin header = true)
      (hbody : ∀ line ∈ body, isEnd line = false) (hending : isEnd ending = true)
      (hlabel : label? header = some label)
      (hcontents : Base64.decodeGroups? (symbols body) = some contents)
      (back : List (List Char)) :
      HoldsBlock (front ++ header :: (body ++ ending :: back))
        { label := String.ofList label, contents := contents }

theorem readLines_append {front : List (List Char)} (hfront : ∀ line ∈ front, isBegin line = false)
    (rest : List (List Char)) : readLines (front ++ rest) = readLines rest := by
  have hskip : ∀ line ∈ front, (!isBegin line) = true := by simpa using hfront
  rw [readLines, readLines, List.dropWhile_append_of_pos hskip]

theorem readLines_cons {header : List Char} (hheader : isBegin header = true)
    (rest : List (List Char)) : readLines (header :: rest) = readBlock header rest := by
  rw [readLines, List.dropWhile_cons_of_neg (by simpa using hheader)]

theorem readBlock_append {body : List (List Char)} (hbody : ∀ line ∈ body, isEnd line = false)
    {ending : List Char} (hending : isEnd ending = true) (header : List Char)
    (back : List (List Char)) :
    readBlock header (body ++ ending :: back) =
      match label? header, Base64.decodeGroups? (symbols body) with
      | some label, some contents => .ok { label := String.ofList label, contents := contents }
      | some _, none => .error .invalidBase64
      | none, _ => .error .invalidHeader := by
  have hany : (body ++ ending :: back).any isEnd = true := by simp [hending]
  have hkeep : ∀ line ∈ body, (!isEnd line) = true := by simpa using hbody
  have htake : (body ++ ending :: back).takeWhile (!isEnd ·) = body := by
    rw [List.takeWhile_append_of_pos hkeep, List.takeWhile_cons_of_neg (by simpa using hending),
      List.append_nil]
  rw [readBlock, hany, htake]
  cases label? header with
  | none => rfl
  | some label => cases Base64.decodeGroups? (symbols body) <;> rfl

theorem readLines_eq_ok_iff {text : List (List Char)} {block : Block} :
    readLines text = .ok block ↔ HoldsBlock text block := by
  constructor
  · intro hread
    cases hbegin : text.find? isBegin with
    | none =>
        have hfront : ∀ line ∈ text, isBegin line = false := by
          simpa using List.find?_eq_none.mp hbegin
        have hmissing := readLines_append hfront []
        rw [List.append_nil, hread] at hmissing
        cases hmissing
    | some header =>
        obtain ⟨hheader, front, rest, rfl, hfront⟩ := List.find?_eq_some_iff_append.mp hbegin
        rw [readLines_append (by simpa using hfront), readLines_cons hheader] at hread
        cases hend : rest.find? isEnd with
        | none =>
            have hany : rest.any isEnd = false := by simpa using List.find?_eq_none.mp hend
            rw [readBlock, hany] at hread
            cases hlabel : label? header <;> rw [hlabel] at hread <;> cases hread
        | some ending =>
            obtain ⟨hending, body, back, rfl, hbody⟩ := List.find?_eq_some_iff_append.mp hend
            rw [readBlock_append (by simpa using hbody) hending] at hread
            split at hread
            · next label contents hlabel hcontents =>
                cases hread
                exact .intro (by simpa using hfront) hheader (by simpa using hbody) hending hlabel
                  hcontents back
            · cases hread
            · cases hread
  · rintro ⟨hfront, hheader, hbody, hending, hlabel, hcontents, back⟩
    rw [readLines_append hfront, readLines_cons hheader, readBlock_append hbody hending, hlabel,
      hcontents]

/-! ## What plays no part -/

theorem isEnd_append {line : List Char} (hline : isEnd line = true) (more : List Char) :
    isEnd (line ++ more) = true :=
  List.isPrefixOf_iff_prefix.mpr
    ((List.isPrefixOf_iff_prefix.mp hline).trans (List.prefix_append line more))

theorem read_append_of_ok {text : String} {block : Block} (hread : read text = .ok block)
    (more : String) : read (text ++ more) = .ok block := by
  rw [read, readLines_eq_ok_iff] at hread ⊢
  rw [String.toList_append]
  generalize hlines : lines text.toList = list at hread
  cases hread with
  | @intro front header body ending label contents hfront hheader hbody hending hlabel hcontents
      back =>
      have hcut : lines text.toList = (front ++ header :: body) ++ ending :: back := by
        simpa using hlines
      obtain ⟨longer, after, hmore⟩ := exists_lines_append hcut more.toList
      rw [hmore, List.append_assoc, List.cons_append]
      exact .intro hfront hheader hbody (isEnd_append hending longer) hlabel hcontents after

def completeLines (front : List String) : String :=
  String.join (front.map (· ++ "\n"))

theorem toList_completeLines (front : List String) :
    (completeLines front).toList = (front.map String.toList).flatMap (· ++ ['\n']) := by
  simp [completeLines, String.toList_join, List.flatMap_map]

/-- Lines without a line feed of their own, none of which starts with the mark of a begin line. -/
def IsPreamble (front : List String) : Prop :=
  ∀ line ∈ front, '\n' ∉ line.toList ∧ ¬beginMark <+: line.toList

instance (front : List String) : Decidable (IsPreamble front) :=
  inferInstanceAs (Decidable (∀ line ∈ front, _ ∧ _))

theorem isBegin_concat_lineFeed {line : List Char} (hline : ¬beginMark <+: line) :
    isBegin (line ++ ['\n']) = false := by
  rw [isBegin, ← Bool.not_eq_true, List.isPrefixOf_iff_prefix, List.prefix_concat_iff]
  rintro (hwhole | hshort)
  · have hmem : '\n' ∈ beginMark := hwhole ▸ List.mem_append_right line (List.mem_singleton_self _)
    exact absurd hmem (by decide)
  · exact hline hshort

/-- Complete lines before a text leave its first block what it is, readable or not. -/
theorem read_completeLines_append {front : List String} (hfront : IsPreamble front)
    (text : String) : read (completeLines front ++ text) = read text := by
  have hplain : ∀ line ∈ front.map String.toList, '\n' ∉ line := by
    simpa using fun line hmem => (hfront line hmem).1
  rw [read, String.toList_append, toList_completeLines, lines_flatMap_append hplain,
    readLines_append, read]
  simp only [List.map_map, List.forall_mem_map]
  exact fun line hmem => isBegin_concat_lineFeed (hfront line hmem).2

end CertCatalog.Pem
