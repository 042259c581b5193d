import CertCatalog.Proofs.Catalog.Enumeration
import CertCatalog.Proofs.Text.Order
import Mathlib.Data.List.Nodup

/-!
# The order of vaults

A catalog enumerates the wanted vaults that ids can lead back to, each in the place where it is
wanted first.  If there is none among the wanted ones, it enumerates all vaults that ids can lead
back to, by their bytes.  Neither depends on the order in which a table holds its keys.
-/

namespace CertCatalog

/-! ## First occurrences -/

section FirstOccurrences

variable {α : Type} [BEq α] [LawfulBEq α]

theorem pairwise_firstOccurrences (list : List α) :
    (firstOccurrences list).Pairwise fun item other => list.idxOf item < list.idxOf other := by
  induction list with
  | nil => exact .nil
  | cons head rest ih =>
      have hshift : ∀ item ∈ (firstOccurrences rest).filter (· != head),
          (head :: rest).idxOf item = rest.idxOf item + 1 := by
        intro item hitem
        exact List.idxOf_cons_ne rest (bne_iff_ne.mp (List.mem_filter.mp hitem).2).symm
      rw [firstOccurrences, List.pairwise_cons]
      constructor
      · intro other hother
        rw [List.idxOf_cons_self, hshift other hother]
        exact Nat.succ_pos _
      · refine (ih.filter _).imp_of_mem fun hitem hother hlt => ?_
        rw [hshift _ hitem, hshift _ hother]
        exact Nat.succ_lt_succ hlt

theorem firstOccurrences_filter (keep : α → Bool) (list : List α) :
    firstOccurrences (list.filter keep) = (firstOccurrences list).filter keep := by
  induction list with
  | nil => rfl
  | cons head rest ih =>
      cases hkeep : keep head with
      | true =>
          rw [List.filter_cons_of_pos hkeep, firstOccurrences, firstOccurrences, ih,
            List.filter_cons_of_pos hkeep, List.filter_comm]
      | false =>
          have hdrop : ¬ keep head = true := by rw [hkeep]; exact Bool.false_ne_true
          rw [List.filter_cons_of_neg hdrop, firstOccurrences, ih, List.filter_cons_of_neg hdrop,
            List.filter_filter]
          -- What is kept differs from the head, which is not.
          refine (List.filter_congr fun item _ => ?_).symm
          cases hitem : keep item with
          | false => rfl
          | true =>
              have hne : item ≠ head := fun heq => hdrop (heq ▸ hitem)
              exact bne_iff_ne.mpr hne

end FirstOccurrences

namespace Catalog

open CertCatalog.CertificateId CertCatalog.Text CertCatalog.Bytes

variable {wanted : List String} {clients : Table (Option Nat)}

/-- A key of the clients that is not empty, trimmed and free of bars. -/
def IsAddressableKey (clients : Table (Option Nat)) (id : String) : Prop :=
  (id ≠ "" ∧ trim id = id ∧ separator ∉ id.toList) ∧ id ∈ clients.keys

instance (clients : Table (Option Nat)) (id : String) : Decidable (IsAddressableKey clients id) :=
  inferInstanceAs (Decidable (_ ∧ _))

theorem isAddressableKey_iff {id : String} :
    IsAddressableKey clients id ↔ isAddressable id = true ∧ id ∈ clients.keys := by
  rw [IsAddressableKey, isAddressable_iff, ← Bool.not_eq_true, String.isEmpty_iff]

/-! ## Wanted vaults -/

theorem mem_namedIds_iff {id : String} :
    id ∈ namedIds wanted clients ↔ id ∈ wanted.map trim ∧ IsAddressableKey clients id := by
  rw [mem_namedIds, isAddressableKey_iff, List.mem_map]

theorem namedIds_ne_nil_iff :
    namedIds wanted clients ≠ [] ↔ ∃ id ∈ wanted, IsAddressableKey clients (trim id) := by
  rw [ne_eq, List.eq_nil_iff_forall_not_mem, not_forall]
  simp only [not_not, mem_namedIds_iff, List.mem_map]
  constructor
  · rintro ⟨-, ⟨id, hid, rfl⟩, hkey⟩
    exact ⟨id, hid, hkey⟩
  · rintro ⟨id, hid, hkey⟩
    exact ⟨trim id, ⟨id, hid, rfl⟩, hkey⟩

theorem vaultIds_of_wanted (hwanted : ∃ id ∈ wanted, IsAddressableKey clients (trim id)) :
    (ofClients wanted clients).vaultIds = namedIds wanted clients := by
  have hnamed : (namedIds wanted clients).isEmpty = false := by
    rw [← Bool.not_eq_true, List.isEmpty_iff]
    exact namedIds_ne_nil_iff.mpr hwanted
  simp [ofClients, hnamed]

theorem vaultIds_of_unwanted (hnone : ¬ ∃ id ∈ wanted, IsAddressableKey clients (trim id)) :
    (ofClients wanted clients).vaultIds = addressableIds clients := by
  have hnamed : namedIds wanted clients = [] := by
    by_contra hne
    exact hnone (namedIds_ne_nil_iff.mp hne)
  simp [ofClients, hnamed]

theorem pairwise_namedIds (wanted : List String) (clients : Table (Option Nat)) :
    (namedIds wanted clients).Pairwise fun id other =>
      (wanted.map trim).idxOf id < (wanted.map trim).idxOf other := by
  rw [namedIds, firstOccurrences_filter]
  exact (pairwise_firstOccurrences _).filter _

/-! ## All vaults -/

theorem mem_addressableIds_iff {id : String} :
    id ∈ addressableIds clients ↔ IsAddressableKey clients id := by
  rw [mem_addressableIds, isAddressableKey_iff, and_comm]

theorem pairwise_addressableIds (clients : Table (Option Nat)) :
    (addressableIds clients).Pairwise (· < ·) := by
  have hsorted : (addressableIds clients).Pairwise fun id other => (!(other < id : Bool)) = true := by
    refine List.pairwise_mergeSort (fun first second third hfirst hsecond => ?_)
      (fun first second => ?_) _
    · simp only [Bool.not_eq_true', decide_eq_false_iff_not, String.not_lt] at hfirst hsecond ⊢
      exact String.le_trans hfirst hsecond
    · simp only [Bool.or_eq_true, Bool.not_eq_true', decide_eq_false_iff_not, String.not_lt]
      exact String.le_total first second
  have hnodup : (addressableIds clients).Nodup := by
    rw [addressableIds, (List.mergeSort_perm _ _).nodup_iff]
    exact clients.keys_nodup.sublist List.filter_sublist
  refine (hsorted.and hnodup).imp fun {id other} hboth => ?_
  obtain ⟨hle, hne⟩ := hboth
  simp only [Bool.not_eq_true', decide_eq_false_iff_not] at hle
  rcases Std.lt_trichotomy id other with hlt | heq | hgt
  · exact hlt
  · exact absurd heq hne
  · exact absurd hgt hle

/-! ## Other tables, other wishes -/

theorem vaultIds_eq_of_perm {other : Table (Option Nat)} (hkeys : other.keys.Perm clients.keys)
    (wanted : List String) :
    (ofClients wanted other).vaultIds = (ofClients wanted clients).vaultIds := by
  have hcontains : other.contains = clients.contains := by
    funext id
    rw [Table.contains, Table.contains, Bool.eq_iff_iff, List.contains_iff_mem,
      List.contains_iff_mem, hkeys.mem_iff]
  have hnamed : namedIds wanted other = namedIds wanted clients := by
    rw [namedIds, namedIds, hcontains]
  have hall : addressableIds other = addressableIds clients := by
    have hperm : (addressableIds other).Perm (addressableIds clients) :=
      (List.mergeSort_perm _ _).trans ((hkeys.filter _).trans (List.mergeSort_perm _ _).symm)
    exact List.Perm.eq_of_pairwise (fun _ _ _ _ hlt hgt => absurd hgt (String.lt_asymm hlt))
      (pairwise_addressableIds other) (pairwise_addressableIds clients) hperm
  simp only [ofClients, hnamed, hall]

theorem isAddressableKey_of_mem_vaultIds {id : String}
    (hmem : id ∈ (ofClients wanted clients).vaultIds) : IsAddressableKey clients id := by
  by_cases hwanted : ∃ id ∈ wanted, IsAddressableKey clients (trim id)
  · rw [vaultIds_of_wanted hwanted] at hmem
    exact (mem_namedIds_iff.mp hmem).2
  · rw [vaultIds_of_unwanted hwanted] at hmem
    exact mem_addressableIds_iff.mp hmem

theorem vaultIds_eq_nil_iff :
    (ofClients wanted clients).vaultIds = [] ↔ ∀ id, ¬ IsAddressableKey clients id := by
  constructor
  · intro hnil id hkey
    by_cases hwanted : ∃ id ∈ wanted, IsAddressableKey clients (trim id)
    · rw [vaultIds_of_wanted hwanted] at hnil
      exact namedIds_ne_nil_iff.mpr hwanted hnil
    · rw [vaultIds_of_unwanted hwanted, List.eq_nil_iff_forall_not_mem] at hnil
      exact hnil id (mem_addressableIds_iff.mpr hkey)
  · intro hnone
    rw [List.eq_nil_iff_forall_not_mem]
    exact fun id hmem => hnone id (isAddressableKey_of_mem_vaultIds hmem)

theorem ofClients_vaultIds (wanted : List String) (clients : Table (Option Nat)) :
    ofClients (ofClients wanted clients).vaultIds clients = ofClients wanted clients := by
  have hnamed : namedIds (ofClients wanted clients).vaultIds clients =
      (ofClients wanted clients).vaultIds :=
    namedIds_eq_self (fun _ hmem => isAddressable_of_mem_vaultIds hmem)
      (fun _ hmem => (isAddressableKey_of_mem_vaultIds hmem).2) (nodup_vaultIds wanted clients)
  have hsame : (ofClients (ofClients wanted clients).vaultIds clients).vaultIds =
      (ofClients wanted clients).vaultIds := by
    by_cases hnil : (ofClients wanted clients).vaultIds = []
    · rw [hnil]
      exact vaultIds_eq_nil_iff.mpr (vaultIds_eq_nil_iff.mp hnil)
    · have hsome : (ofClients wanted clients).vaultIds.isEmpty = false := by simpa using hnil
      rw [ofClients]
      simp only [hnamed, hsome]
      rfl
  exact congrArg (fun vaultIds => Catalog.mk vaultIds clients) hsame

/--
Enumerated vaults are distinct keys of clients that ids can lead back to.  They are the wanted ones,
trimmed, in the order of the places where they are wanted first, if there is any such key among them,
and else all such keys in the order of their bytes; so there are none only if there is no such key.
Tables with the same keys in another order give the same enumeration, and so does wanting what is
enumerated.
-/
theorem enumeration_in_order {wanted : List String} {clients : Table (Option Nat)} {c : Catalog}
    (hc : c = ofClients wanted clients) :
    c.vaultIds.Nodup ∧
    (∀ id ∈ c.vaultIds, IsAddressableKey clients id) ∧
    ((∃ id ∈ wanted, IsAddressableKey clients (trim id)) →
      (∀ id, id ∈ c.vaultIds ↔ id ∈ wanted.map trim ∧ IsAddressableKey clients id) ∧
      c.vaultIds.Pairwise fun id other =>
        (wanted.map trim).idxOf id < (wanted.map trim).idxOf other) ∧
    ((¬ ∃ id ∈ wanted, IsAddressableKey clients (trim id)) →
      (∀ id, id ∈ c.vaultIds ↔ IsAddressableKey clients id) ∧
      c.vaultIds.Pairwise fun id other => utf8 id < utf8 other) ∧
    (∀ other : Table (Option Nat), other.keys.Perm clients.keys →
      (ofClients wanted other).vaultIds = c.vaultIds) ∧
    (c.vaultIds = [] ↔ ∀ id, ¬ IsAddressableKey clients id) ∧
    ofClients c.vaultIds clients = c := by
  subst hc
  refine ⟨nodup_vaultIds wanted clients, fun _ hmem => isAddressableKey_of_mem_vaultIds hmem,
    fun hwanted => ?_, fun hnone => ?_, fun _ hkeys => vaultIds_eq_of_perm hkeys wanted,
    vaultIds_eq_nil_iff, ofClients_vaultIds wanted clients⟩
  · rw [vaultIds_of_wanted hwanted]
    exact ⟨fun _ => mem_namedIds_iff, pairwise_namedIds wanted clients⟩
  · rw [vaultIds_of_unwanted hnone]
    exact ⟨fun _ => mem_addressableIds_iff,
      (pairwise_addressableIds clients).imp utf8_lt_iff.mpr⟩

def scatteredClients : Table (Option Nat) :=
  Table.ofList [("b", some 0), ("we|st", some 1), (" a ", none), ("a", none), ("c", some 2)]

theorem enumeration_of_scattered :
    ((∀ id, id ∈ (ofClients ["c", "", " a ", "x", "c"] scatteredClients).vaultIds ↔
        id ∈ ["c", "", "a", "x", "c"] ∧ IsAddressableKey scatteredClients id) ∧
      (ofClients ["c", "", " a ", "x", "c"] scatteredClients).vaultIds = ["c", "a"]) ∧
    ((ofClients ["x", "we|st"] scatteredClients).vaultIds.Pairwise
        (fun id other => utf8 id < utf8 other) ∧
      (ofClients ["x", "we|st"] scatteredClients).vaultIds = ["a", "b", "c"]) := by
  obtain ⟨-, -, hnamed, -⟩ :=
    @enumeration_in_order ["c", "", " a ", "x", "c"] scatteredClients _ rfl
  obtain ⟨-, -, -, hall, -⟩ :=
    @enumeration_in_order ["x", "we|st"] scatteredClients _ rfl
  have htrimmed : ["c", "", " a ", "x", "c"].map trim = ["c", "", "a", "x", "c"] := by
    decide +kernel
  rw [htrimmed] at hnamed
  have hunwanted : (ofClients ["x", "we|st"] scatteredClients).vaultIds = ["a", "b", "c"] := by
    rw [vaultIds_of_unwanted (by decide +kernel)]
    exact List.Perm.eq_of_pairwise (fun _ _ _ _ hlt hgt => absurd hgt (String.lt_asymm hlt))
      (pairwise_addressableIds scatteredClients) (by decide +kernel)
      ((List.mergeSort_perm _ _).trans (by decide +kernel))
  exact ⟨⟨(hnamed (by decide +kernel)).1, by decide +kernel⟩,
    (hall (by decide +kernel)).2, hunwanted⟩

end Catalog
end CertCatalog
