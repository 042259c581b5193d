import CertCatalog.Certificate
import CertCatalog.Proofs.Text.Order
import Mathlib.Data.List.Nodup

/-!
# The order of listings

A sorted listing ascends by common name and, among equal names, by id.  Certificates with different
ids have one sorted listing only, whatever the order in which they were gathered.
-/

namespace CertCatalog.Certificate

open CertCatalog.Bytes

def IsInOrder (left right : Certificate) : Prop :=
  utf8 left.commonName < utf8 right.commonName ∨
    left.commonName = right.commonName ∧ utf8 left.id ≤ utf8 right.id

theorem isInOrder_iff {left right : Certificate} :
    IsInOrder left right ↔
      left.commonName < right.commonName ∨
        left.commonName = right.commonName ∧ left.id ≤ right.id := by
  rw [IsInOrder, utf8_lt_iff, utf8_le_iff]

theorem precedes_iff {left right : Certificate} :
    precedes left right = true ↔ IsInOrder left right := by
  rw [isInOrder_iff]
  simp only [precedes, Bool.or_eq_true, Bool.and_eq_true, decide_eq_true_eq, beq_iff_eq,
    Bool.not_eq_true', decide_eq_false_iff_not, String.not_lt]

theorem precedes_trans {first second third : Certificate}
    (hfirst : precedes first second = true) (hsecond : precedes second third = true) :
    precedes first third = true := by
  rw [precedes_iff, isInOrder_iff] at hfirst hsecond ⊢
  rcases hfirst with hlt | ⟨heq, hle⟩
  · rcases hsecond with hnext | ⟨hsame, -⟩
    · exact .inl (String.lt_trans hlt hnext)
    · exact .inl (hsame ▸ hlt)
  · rcases hsecond with hnext | ⟨hsame, hlater⟩
    · exact .inl (heq ▸ hnext)
    · exact .inr ⟨heq.trans hsame, String.le_trans hle hlater⟩

theorem precedes_total (left right : Certificate) :
    (precedes left right || precedes right left) = true := by
  rw [Bool.or_eq_true, precedes_iff, precedes_iff, isInOrder_iff, isInOrder_iff]
  rcases Std.lt_trichotomy left.commonName right.commonName with hlt | heq | hgt
  · exact .inl (.inl hlt)
  · rcases String.le_total left.id right.id with hle | hge
    · exact .inl (.inr ⟨heq, hle⟩)
    · exact .inr (.inr ⟨heq.symm, hge⟩)
  · exact .inr (.inl hgt)

theorem precedes_antisymm {left right : Certificate} (hleft : precedes left right = true)
    (hright : precedes right left = true) : left.id = right.id := by
  rw [precedes_iff, isInOrder_iff] at hleft hright
  rcases hleft with hlt | ⟨heq, hle⟩
  · rcases hright with hgt | ⟨heq, -⟩
    · exact absurd hgt (String.lt_asymm hlt)
    · exact absurd (heq ▸ hlt) (String.lt_irrefl _)
  · rcases hright with hgt | ⟨-, hge⟩
    · exact absurd (heq ▸ hgt) (String.lt_irrefl _)
    · exact String.le_antisymm hle hge

private theorem pairwise_precedes_sort (certificates : List Certificate) :
    (sort certificates).Pairwise fun left right => precedes left right = true :=
  @List.pairwise_mergeSort _ precedes (fun _ _ _ hfirst hsecond => precedes_trans hfirst hsecond)
    precedes_total certificates

theorem pairwise_sort (certificates : List Certificate) :
    (sort certificates).Pairwise IsInOrder :=
  (pairwise_precedes_sort certificates).imp precedes_iff.mp

theorem sort_eq_of_perm {first second : List Certificate} (hperm : first.Perm second)
    (hnodup : (first.map (·.id)).Nodup) : sort first = sort second := by
  have hsorted : (sort first).Perm (sort second) :=
    (sort_perm first).trans (hperm.trans (sort_perm second).symm)
  refine List.Perm.eq_of_pairwise (fun left right hleft hright hle hge => ?_)
    (pairwise_precedes_sort first) (pairwise_precedes_sort second) hsorted
  -- Both stand in the first list, where no two certificates have the same id.
  have hmem : right ∈ first :=
    hperm.symm.mem_iff.mp ((sort_perm second).mem_iff.mp hright)
  exact List.inj_on_of_nodup_map hnodup ((sort_perm first).mem_iff.mp hleft) hmem
    (precedes_antisymm hle hge)

end CertCatalog.Certificate
