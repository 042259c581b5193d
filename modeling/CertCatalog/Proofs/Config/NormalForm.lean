import CertCatalog.Proofs.Config.Load
import CertCatalog.Proofs.Config.Normal
import Mathlib.Data.List.Nodup

/-!
# Normal forms of lists of entries

What a list of normalized entries is made of, when normalizing it once more changes nothing, and
which lists of entries have no normal form.
-/

namespace CertCatalog

open CertCatalog.Text

namespace VaultEntry

/-! ## One entry -/

def listedMounts (e : VaultEntry) : List String :=
  (e.mounts.filter (!isAllBlank ·)).map trim

/-- Where the parts of a normal entry are taken from. -/
structure Completes (normal e : VaultEntry) : Prop where
  id : normal.id = if isAllBlank e.id then idOfAddress (trim e.address) else trim e.id
  address : normal.address = trim e.address
  token : normal.token.exposed = trim e.token.exposed
  mounts_listed : e.listedMounts ≠ [] → normal.mounts = e.listedMounts
  mounts_single : e.listedMounts = [] → isAllBlank e.mount = false → normal.mounts = [trim e.mount]
  mounts_default : e.listedMounts = [] → isAllBlank e.mount = true → normal.mounts = ["pki"]
  mount : normal.mount = if isAllBlank e.mount then normal.mounts.headD defaultMount
    else trim e.mount
  displayName : normal.displayName = if isAllBlank e.displayName then normal.id
    else trim e.displayName
  skipVerification : normal.skipVerification = e.skipVerification
  caBase64 : normal.caBase64 = e.caBase64.bind nonBlank?
  caPath : normal.caPath = e.caPath.bind nonBlank?

/-- An entry with nothing to trim and nothing to complete. -/
structure IsNormal (normal : VaultEntry) : Prop where
  id_ne_empty : normal.id ≠ ""
  separator_notMem : CertificateId.separator ∉ normal.id.toList
  address : IsTrimmed normal.address
  isAddress : isAddress normal.address = true
  token : IsTrimmed normal.token.exposed
  mount : IsTrimmed normal.mount
  mounts_ne_nil : normal.mounts ≠ []
  mounts : ∀ mount ∈ normal.mounts, IsTrimmed mount
  displayName_ne_empty : normal.displayName ≠ ""
  caBase64 : ∀ text, normal.caBase64 = some text → IsTrimmed text
  caPath : ∀ text, normal.caPath = some text → IsTrimmed text
  enabled : normal.enabled = some true

theorem filterMap_nonBlank?_mounts (e : VaultEntry) :
    e.mounts.filterMap nonBlank? = e.listedMounts := by
  rw [listedMounts, ← List.filterMap_eq_map, List.filterMap_filter]
  refine List.filterMap_congr fun mount _ => ?_
  rw [nonBlank?_eq_ite]
  cases isAllBlank mount <;> rfl

theorem completes_completed (e : VaultEntry) : e.completed.Completes e where
  id := by
    rw [id_completed, normalId]
    simp only [String.isEmpty_iff, trim_eq_empty_iff]
  address := rfl
  token := rfl
  mounts_listed hlisted := by
    rw [completed, normalMounts, filterMap_nonBlank?_mounts]
    split
    · contradiction
    · rfl
  mounts_single hlisted hmount := by
    rw [completed, normalMounts, filterMap_nonBlank?_mounts, hlisted, nonBlank?_eq_ite, hmount]
    rfl
  mounts_default hlisted hmount := by
    rw [completed, normalMounts, filterMap_nonBlank?_mounts, hlisted, nonBlank?_eq_ite, hmount]
    rfl
  mount := by
    rw [completed, ← nonBlank?_getD]
  displayName := by
    rw [id_completed, completed, ← nonBlank?_getD]
  skipVerification := by rw [completed]
  caBase64 := by rw [completed]
  caPath := by rw [completed]

theorem normalMounts_ne_nil (e : VaultEntry) : e.normalMounts ≠ [] := by
  unfold normalMounts
  split
  · exact List.cons_ne_nil _ _
  · next hmounts => exact fun hnil => hmounts hnil

theorem mount_completed (e : VaultEntry) :
    e.completed.mount = (nonBlank? e.mount).getD (e.normalMounts.headD defaultMount) := by
  rw [completed]

theorem isNormal_completed {e : VaultEntry} (hvalid : ¬ e.IsInvalid) : e.completed.IsNormal where
  id_ne_empty := by
    rw [id_completed]
    exact fun hempty => hvalid (.emptyId hempty)
  separator_notMem := by
    rw [id_completed]
    exact fun hmem => hvalid (.separatorInId hmem)
  address := isTrimmed_trim (Bool.eq_false_iff.mpr fun hblank => hvalid (.blankAddress hblank))
  isAddress := Bool.not_eq_false _ ▸ fun hform => hvalid (.notAnAddress hform)
  token := isTrimmed_trim (Bool.eq_false_iff.mpr fun hblank => hvalid (.blankToken hblank))
  mount := by
    rw [mount_completed]
    refine isTrimmed_getD_nonBlank? ?_
    cases hmounts : e.normalMounts with
    | nil => exact isTrimmed_defaultMount
    | cons first rest => exact isTrimmed_of_mem_normalMounts (by rw [hmounts]; exact .head _)
  mounts_ne_nil := e.normalMounts_ne_nil
  mounts _ hmem := isTrimmed_of_mem_normalMounts hmem
  displayName_ne_empty := by
    rw [e.completes_completed.displayName]
    split
    · rw [id_completed]
      exact fun hempty => hvalid (.emptyId hempty)
    · next hblank => exact (isTrimmed_trim (by simpa using hblank)).2
  caBase64 _ htext := isTrimmed_of_bind_nonBlank? htext
  caPath _ htext := isTrimmed_of_bind_nonBlank? htext
  enabled := rfl

/-! ## Normal forms of normal forms -/

variable {normal : VaultEntry}

theorem IsNormal.normalId_eq (h : normal.IsNormal) (hid : trim normal.id = normal.id) :
    normal.normalId = normal.id := by
  rw [normalId, hid, if_neg (by simpa using h.id_ne_empty)]

theorem IsNormal.normalMounts_eq (h : normal.IsNormal) : normal.normalMounts = normal.mounts := by
  have hkept : normal.mounts.filterMap nonBlank? = normal.mounts := by
    rw [List.filterMap_congr fun mount hmem => nonBlank?_of_isTrimmed (h.mounts mount hmem)]
    exact List.filterMap_some
  rw [normalMounts, hkept]
  split
  · next hnil => exact absurd hnil h.mounts_ne_nil
  · rfl

theorem IsNormal.completed_eq (h : normal.IsNormal) (hid : trim normal.id = normal.id)
    (hname : trim normal.displayName = normal.displayName) : normal.completed = normal := by
  have hmount := nonBlank?_of_isTrimmed h.mount
  have hshown := nonBlank?_of_isTrimmed ⟨hname, h.displayName_ne_empty⟩
  have htoken : normal.token.trimmed = normal.token := by
    rw [Secret.trimmed, h.token.1]
  rw [completed, h.normalId_eq hid, h.normalMounts_eq, h.address.1, htoken, hmount, hshown,
    bind_nonBlank?_eq_self h.caBase64, bind_nonBlank?_eq_self h.caPath, ← h.enabled]
  rfl

theorem IsNormal.not_isInvalid (h : normal.IsNormal) (hid : trim normal.id = normal.id) :
    ¬ normal.IsInvalid := by
  intro hinvalid
  cases hinvalid with
  | blankAddress hblank =>
      rw [isAllBlank_eq_false_of_trim h.address.1 h.address.2] at hblank
      cases hblank
  | separatorInId hmem => exact h.separator_notMem (h.normalId_eq hid ▸ hmem)
  | blankToken hblank =>
      rw [isAllBlank_eq_false_of_trim h.token.1 h.token.2] at hblank
      cases hblank
  | notAnAddress hform =>
      rw [h.address.1, h.isAddress] at hform
      cases hform
  | emptyId hempty => exact h.id_ne_empty ((h.normalId_eq hid).symm.trans hempty)

theorem normalize_completed {e : VaultEntry} (hvalid : ¬ e.IsInvalid)
    (hid : isAllBlank e.id = false) : e.completed.normalize = .ok e.completed := by
  have hnormal := isNormal_completed hvalid
  have hparts := e.completes_completed
  have hidTrimmed : trim e.completed.id = e.completed.id := by
    rw [hparts.id, hid, if_neg Bool.false_ne_true, trim_trim]
  have hnameTrimmed : trim e.completed.displayName = e.completed.displayName := by
    rw [hparts.displayName]
    split
    · exact hidTrimmed
    · exact trim_trim _
  exact normalize_eq_ok_iff.mpr ⟨hnormal.not_isInvalid hidTrimmed,
    (hnormal.completed_eq hidTrimmed hnameTrimmed).symm⟩

/-! ## Lists of entries -/

variable {order : FaultOrder}

theorem normalizeFrom_of_valid {entries : List VaultEntry} {place : Nat} {seen : List String}
    (hvalid : ∀ e ∈ entries.filter isEnabled, ¬ e.IsInvalid)
    (hnodup : ((entries.filter isEnabled).map normalId).Nodup)
    (hfresh : ∀ e ∈ entries.filter isEnabled, e.normalId ∉ seen) :
    normalizeFrom order place seen entries = .ok ((entries.filter isEnabled).map completed) := by
  induction entries generalizing place seen with
  | nil => rfl
  | cons e rest ih =>
      cases henabled : e.isEnabled with
      | false =>
          rw [List.filter_cons_of_neg (by simp [henabled])] at *
          simpa [normalizeFrom, henabled] using ih hvalid hnodup hfresh
      | true =>
          rw [List.filter_cons_of_pos henabled] at *
          rw [List.map_cons, List.nodup_cons] at hnodup
          obtain ⟨hvalidFirst, hvalidRest⟩ := List.forall_mem_cons.mp hvalid
          obtain ⟨hfreshFirst, hfreshRest⟩ := List.forall_mem_cons.mp hfresh
          have hfirst : e.normalizeAt order place = .ok e.completed := by
            rw [normalizeAt, normalize_eq_ok_iff.mpr ⟨hvalidFirst, rfl⟩]
          -- No later entry repeats the id of this one.
          have hunseen : ∀ other ∈ rest.filter isEnabled,
              other.normalId ∉ e.normalId :: seen := by
            intro other hother hmem
            rcases List.mem_cons.mp hmem with hsame | hseen
            · exact hnodup.1 (hsame ▸ List.mem_map_of_mem hother)
            · exact hfreshRest other hother hseen
          have hrest : normalizeFrom order (place + 1) (e.normalId :: seen) rest =
              .ok ((rest.filter isEnabled).map completed) := ih hvalidRest hnodup.2 hunseen
          simp [normalizeFrom, henabled, hfirst, bind, Except.bind, hfreshFirst, hrest, pure,
            Except.pure]

theorem normalizeAll_eq_ok_iff {entries normals : List VaultEntry} :
    normalizeAll order entries = .ok normals ↔
      (∀ e ∈ entries.filter isEnabled, ¬ e.IsInvalid) ∧
        ((entries.filter isEnabled).map normalId).Nodup ∧
        normals = (entries.filter isEnabled).map completed := by
  constructor
  · intro hok
    obtain ⟨hnormals, hnodup, -⟩ := normalizeFrom_eq_ok hok
    have hones := normalize_of_normalizeFrom hok
    rw [hnormals, List.forall₂_map_right_iff, List.forall₂_same] at hones
    rw [hnormals, List.map_map] at hnodup
    refine ⟨fun e he => (normalize_eq_ok_iff.mp (hones e he)).1, ?_, hnormals⟩
    rwa [List.map_congr_left fun e _ => (id_completed e).symm]
  · rintro ⟨hvalid, hnodup, rfl⟩
    exact normalizeFrom_of_valid hvalid hnodup fun _ _ => List.not_mem_nil

theorem normalizeAll_eq_error_iff {entries : List VaultEntry} :
    (∃ message, normalizeAll order entries = .error (.config message)) ↔
      (∃ e ∈ entries, e.isEnabled = true ∧ e.IsInvalid) ∨
        ∃ e other, [e, other].Sublist (entries.filter isEnabled) ∧ e.normalId = other.normalId := by
  have hrepeated : ((entries.filter isEnabled).map normalId).Nodup ↔
      ∀ {e other}, [e, other].Sublist (entries.filter isEnabled) → e.normalId ≠ other.normalId := by
    rw [List.Nodup, List.pairwise_map, List.pairwise_iff_forall_sublist]
  constructor
  · rintro ⟨message, herror⟩
    by_contra! hnone
    obtain ⟨hvalid, hids⟩ := hnone
    have hok : normalizeAll order entries = .ok ((entries.filter isEnabled).map completed) := by
      refine normalizeAll_eq_ok_iff.mpr ⟨fun e he => ?_, hrepeated.mpr fun h => hids _ _ h, rfl⟩
      obtain ⟨hmem, henabled⟩ := List.mem_filter.mp he
      exact hvalid e hmem henabled
    rw [hok] at herror
    cases herror
  · intro hfault
    cases hresult : normalizeAll order entries with
    | error e =>
        obtain ⟨message, rfl⟩ := BlamesConfig.normalizeFrom order 0 [] entries e hresult
        exact ⟨message, rfl⟩
    | ok normals =>
        obtain ⟨hvalid, hnodup, -⟩ := normalizeAll_eq_ok_iff.mp hresult
        rcases hfault with ⟨e, hmem, henabled, hinvalid⟩ | ⟨e, other, hplaces, hid⟩
        · exact absurd hinvalid (hvalid e (List.mem_filter.mpr ⟨hmem, henabled⟩))
        · exact absurd hid (hrepeated.mp hnodup hplaces)

/--
The normal form of a list holds one trimmed and completed entry for each enabled entry, in their
order and with distinct ids.  It is its own normal form if all enabled entries have ids of their own;
derived ids may still have blanks at their ends.  A list has no normal form exactly if one enabled
entry is invalid by itself or two enabled entries share their normal id.
-/
theorem normalization_reaches_normal_form (order : FaultOrder) (entries : List VaultEntry) :
    (∀ normals, normalizeAll order entries = .ok normals →
      List.Forall₂ (fun e normal => normal.Completes e ∧ normal.IsNormal)
        (entries.filter isEnabled) normals ∧
      (normals.map (·.id)).Nodup ∧
      ((∀ e ∈ entries, e.isEnabled = true → isAllBlank e.id = false) →
        normalizeAll order normals = .ok normals)) ∧
    ((∃ message, normalizeAll order entries = .error (.config message)) ↔
      (∃ e ∈ entries, e.isEnabled = true ∧ e.IsInvalid) ∨
        ∃ e other, [e, other].Sublist (entries.filter isEnabled) ∧
          e.normalId = other.normalId) := by
  refine ⟨fun normals hok => ?_, normalizeAll_eq_error_iff⟩
  obtain ⟨hvalid, -, hnormals⟩ := normalizeAll_eq_ok_iff.mp hok
  have hnodup : (normals.map (·.id)).Nodup := (normalizeFrom_eq_ok hok).2.1
  refine ⟨?_, hnodup, fun hids => ?_⟩
  · rw [hnormals, List.forall₂_map_right_iff, List.forall₂_same]
    exact fun e he => ⟨e.completes_completed, isNormal_completed (hvalid e he)⟩
  · -- A normal entry is enabled, valid and its own completion.
    have hfixed : ∀ normal ∈ normals, normal.isEnabled = true ∧ ¬ normal.IsInvalid ∧
        normal.normalId = normal.id ∧ normal.completed = normal := by
      intro normal hmem
      rw [hnormals] at hmem
      obtain ⟨e, he, rfl⟩ := List.mem_map.mp hmem
      obtain ⟨hlisted, henabled⟩ := List.mem_filter.mp he
      have hagain := normalize_completed (hvalid e he) (hids e hlisted henabled)
      obtain ⟨hvalidAgain, hsame⟩ := normalize_eq_ok_iff.mp hagain
      exact ⟨rfl, hvalidAgain, (id_completed _).symm.trans (congrArg VaultEntry.id hsame.symm),
        hsame.symm⟩
    have hall : normals.filter isEnabled = normals :=
      List.filter_eq_self.mpr fun normal hmem => (hfixed normal hmem).1
    refine normalizeAll_eq_ok_iff.mpr ⟨?_, ?_, ?_⟩
    · rw [hall]
      exact fun normal hmem => (hfixed normal hmem).2.1
    · rwa [hall, List.map_congr_left fun normal hmem => (hfixed normal hmem).2.2.1]
    · rw [hall, List.map_congr_left fun normal hmem => (hfixed normal hmem).2.2.2, List.map_id']

def spacedEntry : VaultEntry :=
  { empty with id := " a ", address := " http://a", token := ⟨"r "⟩, mounts := [" ", " m"] }

def entryWithId (id : String) : VaultEntry :=
  { empty with id := id, address := "http://a", token := ⟨"r"⟩ }

def sampleEntries (id : String) : List VaultEntry :=
  [spacedEntry, { empty with enabled := some false }, entryWithId id]

/-- Without an id, the last vault takes the id of the first one from its address. -/
theorem normalization_of_sample :
    (∃ normals, normalizeAll .addressFirst (sampleEntries "b ") = .ok normals ∧
        normals.map (fun normal => (normal.id, normal.mounts)) = [("a", ["m"]), ("b", ["pki"])] ∧
        normalizeAll .addressFirst normals = .ok normals) ∧
      ∃ message, normalizeAll .addressFirst (sampleEntries "") = .error (.config message) := by
  obtain ⟨hnormal, -⟩ := normalization_reaches_normal_form .addressFirst (sampleEntries "b ")
  obtain ⟨-, hfault⟩ := normalization_reaches_normal_form .addressFirst (sampleEntries "")
  constructor
  · have hparts : (normalizeAll .addressFirst (sampleEntries "b ")).toOption.map
        (List.map fun normal => (normal.id, normal.mounts)) =
          some [("a", ["m"]), ("b", ["pki"])] := by decide +kernel
    cases hresult : normalizeAll .addressFirst (sampleEntries "b ") with
    | error e => simp [hresult, Except.toOption] at hparts
    | ok normals =>
        obtain ⟨-, -, hagain⟩ := hnormal normals hresult
        refine ⟨normals, rfl, by simpa [hresult, Except.toOption] using hparts, hagain ?_⟩
        decide
  · have hactive : (sampleEntries "").filter isEnabled = [spacedEntry, entryWithId ""] := by decide
    exact hfault.mpr (.inr ⟨spacedEntry, entryWithId "", hactive ▸ .refl _, by decide +kernel⟩)

end VaultEntry
end CertCatalog
