/-!
# First occurrences
-/

namespace CertCatalog

variable {α : Type} [BEq α]

def firstOccurrences : List α → List α
  | [] => []
  | item :: rest => item :: (firstOccurrences rest).filter (· != item)

theorem mem_firstOccurrences [LawfulBEq α] {item : α} {list : List α} :
    item ∈ firstOccurrences list ↔ item ∈ list := by
  induction list with
  | nil => simp [firstOccurrences]
  | cons head rest ih =>
      by_cases h : item = head <;> simp [firstOccurrences, h, ih]

theorem nodup_firstOccurrences [LawfulBEq α] (list : List α) : (firstOccurrences list).Nodup := by
  induction list with
  | nil => simp [firstOccurrences]
  | cons head rest ih =>
      rw [firstOccurrences, List.nodup_cons]
      exact ⟨by simp, ih.sublist List.filter_sublist⟩

end CertCatalog
