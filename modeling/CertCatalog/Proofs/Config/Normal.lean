import CertCatalog.Config.Normal
import CertCatalog.Proofs.Text.Blank
import Mathlib.Data.List.Forall2
import Mathlib.Tactic.MkIffOfInductiveProp

/-!
# Normal entries

What normalization promises of an entry that it lets through.
-/

namespace CertCatalog

open CertCatalog.Text

namespace Secret

@[simp] theorem isBlank_trimmed (s : Secret) : s.trimmed.isBlank = s.isBlank := by
  simp [isBlank, trimmed]

theorem isBlank_iff (s : Secret) : s.isBlank = true ↔ isAllBlank s.exposed = true := by
  rw [isBlank, String.isEmpty_iff, trim_eq_empty_iff]

end Secret

namespace VaultEntry

theorem isTrimmed_defaultMount : IsTrimmed defaultMount := by
  exact ⟨by decide, by decide⟩

theorem isTrimmed_of_mem_normalMounts {e : VaultEntry} {mount : String}
    (hmem : mount ∈ e.normalMounts) : IsTrimmed mount := by
  unfold normalMounts at hmem
  split at hmem
  · rw [List.mem_singleton] at hmem
    exact hmem ▸ isTrimmed_getD_nonBlank? isTrimmed_defaultMount
  · obtain ⟨listed, -, hkept⟩ := List.mem_filterMap.mp hmem
    exact isTrimmed_of_nonBlank? hkept

@[simp] theorem id_completed (e : VaultEntry) : e.completed.id = e.normalId := by
  simp only [completed]

@[mk_iff]
inductive IsInvalid (e : VaultEntry) : Prop
  | blankAddress (hblank : isAllBlank e.address = true)
  | separatorInId (hmem : CertificateId.separator ∈ e.normalId.toList)
  | blankToken (hblank : isAllBlank e.token.exposed = true)
  | notAnAddress (hform : isAddress (trim e.address) = false)
  | emptyId (hempty : e.normalId = "")

theorem normalize_eq_ok_iff {e normal : VaultEntry} :
    e.normalize = .ok normal ↔ ¬ e.IsInvalid ∧ normal = e.completed := by
  have haddress : e.completed.address.isEmpty = true ↔ isAllBlank e.address = true := by
    rw [completed, String.isEmpty_iff, trim_eq_empty_iff]
  have htoken : e.completed.token.isBlank = true ↔ isAllBlank e.token.exposed = true := by
    rw [completed, Secret.isBlank_trimmed, Secret.isBlank_iff]
  have htrim : e.completed.address = trim e.address := rfl
  rw [isInvalid_iff, not_or, not_or, not_or, not_or, ← haddress, ← htoken, ← id_completed, ← htrim,
    normalize]
  generalize e.completed = completed
  -- One case for each fault, in the order in which they are looked for.
  by_cases hnone : completed.address.isEmpty = true
  · simp [hnone]
  by_cases hseparator : CertificateId.separator ∈ completed.id.toList
  · simp [hnone, hseparator]
  by_cases hblank : completed.token.isBlank = true
  · simp [hnone, hseparator, hblank]
  by_cases hform : isAddress completed.address = true
  · by_cases hid : completed.id = ""
    · simp [hnone, hblank, hform, hid]
    · have hswap : completed = normal ↔ normal = completed := eq_comm
      simp [hnone, hseparator, hblank, hform, hid, hswap]
  · simp [hnone, hseparator, hblank, hform]

theorem normalize_eq_ok {e normal : VaultEntry} (hnormal : e.normalize = .ok normal) :
    normal = e.completed ∧ CertificateId.separator ∉ normal.id.toList ∧
      normal.id.isEmpty = false := by
  obtain ⟨hvalid, rfl⟩ := normalize_eq_ok_iff.mp hnormal
  rw [id_completed, String.isEmpty_eq_false_iff]
  exact ⟨rfl, fun hmem => hvalid (.separatorInId hmem), fun hempty => hvalid (.emptyId hempty)⟩

variable {order : FaultOrder}

theorem normalizeAt_eq_ok {place : Nat} {e normal : VaultEntry}
    (hnormal : e.normalizeAt order place = .ok normal) : e.normalize = .ok normal := by
  unfold normalizeAt at hnormal
  cases hone : e.normalize with
  | error fault => simp [hone] at hnormal
  | ok found =>
      simp only [hone] at hnormal
      cases hnormal
      rfl

/-! ## Lists of entries -/

/-- The inversion lemma: what one entry does to a list that is let through. -/
theorem normalizeFrom_cons_eq_ok {e : VaultEntry} {rest : List VaultEntry} {place : Nat}
    {seen : List String} {normals : List VaultEntry}
    (hok : normalizeFrom order place seen (e :: rest) = .ok normals) :
    (e.isEnabled = false ∧ normalizeFrom order (place + 1) seen rest = .ok normals) ∨
      (e.isEnabled = true ∧ ∃ normal others, e.normalize = .ok normal ∧ normal.id ∉ seen ∧
        normalizeFrom order (place + 1) (normal.id :: seen) rest = .ok others ∧
        normals = normal :: others) := by
  unfold normalizeFrom at hok
  cases henabled : e.isEnabled with
  | false => exact .inl ⟨rfl, by simpa [henabled] using hok⟩
  | true =>
      simp only [henabled, Bool.not_true, Bool.false_eq_true, if_false] at hok
      cases hfirst : e.normalizeAt order place with
      | error fault => simp [hfirst, bind, Except.bind] at hok
      | ok normal =>
          simp only [hfirst, bind, Except.bind] at hok
          split at hok
          · cases hok
          · next hseen =>
              cases hrest : normalizeFrom order (place + 1) (normal.id :: seen) rest with
              | error fault => simp [hrest] at hok
              | ok others =>
                  simp only [hrest] at hok
                  cases hok
                  exact .inr ⟨rfl, normal, others, normalizeAt_eq_ok hfirst,
                    fun hmem => hseen (List.contains_iff_mem.mpr hmem), hrest, rfl⟩

theorem normalizeFrom_eq_ok {entries : List VaultEntry} {place : Nat} {seen : List String}
    {normals : List VaultEntry} (hok : normalizeFrom order place seen entries = .ok normals) :
    normals = (entries.filter isEnabled).map completed ∧
      (normals.map (·.id)).Nodup ∧ ∀ normal ∈ normals, normal.id ∉ seen ∧
        CertificateId.separator ∉ normal.id.toList ∧ normal.id.isEmpty = false := by
  induction entries generalizing place seen normals with
  | nil =>
      cases hok
      exact ⟨rfl, List.nodup_nil, nofun⟩
  | cons e rest ih =>
      rcases normalizeFrom_cons_eq_ok hok with
        ⟨hdisabled, hrest⟩ | ⟨henabled, normal, others, hone, hfresh, hrest, rfl⟩
      · obtain ⟨hnormals, hids⟩ := ih hrest
        exact ⟨by rw [List.filter_cons_of_neg (by simp [hdisabled]), hnormals], hids⟩
      · obtain ⟨rfl, hseparator, hnonempty⟩ := normalize_eq_ok hone
        obtain ⟨hothers, hnodup, hids⟩ := ih hrest
        refine ⟨by rw [List.filter_cons_of_pos henabled, List.map_cons, hothers], ?_, ?_⟩
        · rw [List.map_cons, List.nodup_cons]
          refine ⟨fun hmem => ?_, hnodup⟩
          obtain ⟨other, hother, hid⟩ := List.mem_map.mp hmem
          exact (hids other hother).1 (by simp [hid])
        · intro normal hmem
          rcases List.mem_cons.mp hmem with rfl | hother
          · exact ⟨hfresh, hseparator, hnonempty⟩
          · obtain ⟨hseen, hid⟩ := hids normal hother
            exact ⟨fun h => hseen (List.mem_cons_of_mem _ h), hid⟩

/-- Switched off entries are passed over, and all others are normalized in their order. -/
theorem normalize_of_normalizeFrom {entries : List VaultEntry} {place : Nat} {seen : List String}
    {normals : List VaultEntry} (hok : normalizeFrom order place seen entries = .ok normals) :
    List.Forall₂ (fun e normal => e.normalize = .ok normal) (entries.filter isEnabled) normals := by
  induction entries generalizing place seen normals with
  | nil =>
      cases hok
      exact .nil
  | cons e rest ih =>
      rcases normalizeFrom_cons_eq_ok hok with
        ⟨hdisabled, hrest⟩ | ⟨henabled, normal, others, hone, -, hrest, rfl⟩
      · rw [List.filter_cons_of_neg (by simp [hdisabled])]
        exact ih hrest
      · rw [List.filter_cons_of_pos henabled]
        exact .cons hone (ih hrest)

theorem normals_eq_of_normalizeAll {entries normals : List VaultEntry}
    (hok : normalizeAll order entries = .ok normals) :
    normals = (entries.filter isEnabled).map completed :=
  (normalizeFrom_eq_ok hok).1

/-- Normal mounts begin with no blank; nothing else is asked of their characters. -/
theorem hasLeadingBlank_of_normalizeAll {entries normals : List VaultEntry}
    (hok : normalizeAll order entries = .ok normals) {normal : VaultEntry}
    (hmem : normal ∈ normals) {mount : String} (hmount : mount ∈ normal.mounts) :
    hasLeadingBlank mount = false := by
  rw [normals_eq_of_normalizeAll hok] at hmem
  obtain ⟨e, -, rfl⟩ := List.mem_map.mp hmem
  exact ((trim_eq_self_iff mount).mp (isTrimmed_of_mem_normalMounts hmount).1).1

end VaultEntry
end CertCatalog
