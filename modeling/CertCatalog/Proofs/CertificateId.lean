import CertCatalog.CertificateId
import CertCatalog.Proofs.Text.Blank
import CertCatalog.Proofs.Text.Split

/-!
# Where ids lead

An id is minted by putting texts together and read by cutting it at the first separator.  Reading
leads back to what was minted only if the first part is free of the separator and no blank stands
at an end.
-/

namespace CertCatalog.CertificateId

open CertCatalog.Text

/-! ## Across vaults -/

/--
What an id is taken apart into: the trimmed parts before and after the first bar, none of them blank,
or the only vault and the whole trimmed id.
-/
theorem parse_eq_ok_iff {vaultIds : List String} {value vaultId localId : String} :
    parse vaultIds value = .ok (vaultId, localId) ↔
      (∃ before after, separator ∉ before.toList ∧
        value = before ++ String.singleton separator ++ after ∧
        isAllBlank before = false ∧ isAllBlank after = false ∧
        vaultId = trim before ∧ localId = trim after) ∨
      (separator ∉ value.toList ∧ vaultIds = [vaultId] ∧ isAllBlank value = false ∧
        localId = trim value) := by
  by_cases hmem : separator ∈ value.toList
  · obtain ⟨before, after, hbefore, rfl⟩ := exists_cut_of_mem hmem
    have hcut := cut?_append_separator hbefore after
    constructor
    · intro hparse
      simp only [parse, hcut] at hparse
      split at hparse
      · cases hparse
      · next hblank =>
          rw [Bool.or_eq_true, not_or, Bool.not_eq_true, Bool.not_eq_true] at hblank
          obtain ⟨rfl, rfl⟩ := Prod.mk.inj (Except.ok.inj hparse)
          exact .inl ⟨before, after, hbefore, rfl, hblank.1, hblank.2, rfl, rfl⟩
    · rintro (⟨front, back, hfront, hsplit, hvault, hlocal, rfl, rfl⟩ | ⟨hplain, -⟩)
      · simp only [parse, cut?_eq_some_iff.mpr ⟨hfront, hsplit⟩, hvault, hlocal]
        rfl
      · exact absurd hmem hplain
  · have hcut := cut?_of_not_mem hmem
    constructor
    · intro hparse
      simp only [parse, hcut] at hparse
      split at hparse
      · split at hparse
        · cases hparse
        · next hblank =>
            obtain ⟨rfl, rfl⟩ := Prod.mk.inj (Except.ok.inj hparse)
            exact .inr ⟨hmem, rfl, Bool.eq_false_iff.mpr hblank, rfl⟩
      · cases hparse
    · rintro (⟨before, after, -, rfl, -⟩ | ⟨-, rfl, hblank, rfl⟩)
      · exact absurd (by simp) hmem
      · simp [parse, hcut, hblank]

theorem parse_compose_eq_trim {vaultId localId : String} (hplain : separator ∉ vaultId.toList)
    (hvault : isAllBlank vaultId = false) (hlocal : isAllBlank localId = false)
    (vaultIds : List String) :
    parse vaultIds (compose vaultId localId) = .ok (trim vaultId, trim localId) :=
  parse_eq_ok_iff.mpr (.inl ⟨vaultId, localId, hplain, rfl, hvault, hlocal, rfl, rfl⟩)

theorem isAddressable_iff {vaultId : String} :
    isAddressable vaultId = true ↔
      vaultId.isEmpty = false ∧ trim vaultId = vaultId ∧ separator ∉ vaultId.toList := by
  simp [isAddressable, and_assoc]

theorem separator_not_mem_of_isAddressable {vaultId : String}
    (haddressable : isAddressable vaultId = true) : separator ∉ vaultId.toList :=
  (isAddressable_iff.mp haddressable).2.2

theorem parse_compose {vaultId : String} (haddressable : isAddressable vaultId = true)
    {localId : String} (hlocal : isAllBlank localId = false) (vaultIds : List String) :
    parse vaultIds (compose vaultId localId) = .ok (vaultId, trim localId) := by
  obtain ⟨hnonempty, htrimmed, hplain⟩ := isAddressable_iff.mp haddressable
  have hvault : isAllBlank vaultId = false :=
    isAllBlank_eq_false_of_trim htrimmed (by rintro rfl; cases hnonempty)
  rw [parse_compose_eq_trim hplain hvault hlocal, htrimmed]

def localPart (value : String) : String :=
  ((cut? value separator).map (·.2)).getD value

theorem localPart_of_parse {vaultIds : List String} {value vaultId localId : String}
    (hparse : parse vaultIds value = .ok (vaultId, localId)) :
    localId = trim (localPart value) := by
  rcases parse_eq_ok_iff.mp hparse with
    ⟨before, after, hbefore, hvalue, -, -, -, rfl⟩ | ⟨hplain, -, -, rfl⟩
  · rw [localPart, cut?_eq_some_iff.mpr ⟨hbefore, hvalue⟩]
    rfl
  · rw [localPart, cut?_of_not_mem hplain]
    rfl

/-- No id leads to a vault id that is not addressable, provided that the only vault is. -/
theorem isAddressable_of_parse {vaultIds : List String}
    (hvaults : ∀ vaultId ∈ vaultIds, isAddressable vaultId = true)
    {value vaultId localId : String} (hparse : parse vaultIds value = .ok (vaultId, localId)) :
    isAddressable vaultId = true := by
  rcases parse_eq_ok_iff.mp hparse with
    ⟨before, after, hbefore, -, hblank, -, rfl, -⟩ | ⟨-, rfl, -⟩
  · refine isAddressable_iff.mpr ⟨?_, trim_trim before, fun hmem => hbefore (mem_of_mem_trim hmem)⟩
    rw [Bool.eq_false_iff, ne_eq, String.isEmpty_iff, trim_eq_empty_iff, hblank]
    exact Bool.false_ne_true
  · exact hvaults vaultId (List.mem_singleton_self vaultId)

theorem compose_inj {vaultId other localId otherId : String}
    (hvault : isAddressable vaultId = true) (hother : isAddressable other = true)
    (hcompose : compose vaultId localId = compose other otherId) :
    vaultId = other ∧ localId = otherId := by
  have hfirst : cut? (compose vaultId localId) separator = some (vaultId, localId) :=
    cut?_append_separator (separator_not_mem_of_isAddressable hvault) localId
  have hsecond : cut? (compose other otherId) separator = some (other, otherId) :=
    cut?_append_separator (separator_not_mem_of_isAddressable hother) otherId
  rw [hcompose, hsecond] at hfirst
  obtain ⟨rfl, rfl⟩ := Prod.mk.inj (Option.some.inj hfirst)
  exact ⟨rfl, rfl⟩

/-! ## Within a vault -/

theorem toList_ofMount (mount serial : String) :
    (ofMount mount serial).toList = mount.toList ++ mountSeparator :: serial.toList := by
  simp [ofMount]

theorem ofMount_inj {mount other serial number : String} (hmount : mountSeparator ∉ mount.toList)
    (hother : mountSeparator ∉ other.toList) (hid : ofMount mount serial = ofMount other number) :
    mount = other ∧ serial = number := by
  have hfirst : cut? (ofMount mount serial) mountSeparator = some (mount, serial) :=
    cut?_append_separator hmount serial
  have hsecond : cut? (ofMount other number) mountSeparator = some (other, number) :=
    cut?_append_separator hother number
  rw [hid, hsecond] at hfirst
  obtain ⟨rfl, rfl⟩ := Prod.mk.inj (Option.some.inj hfirst)
  exact ⟨rfl, rfl⟩

theorem ofMount_ne_empty (mount serial : String) : (ofMount mount serial).isEmpty = false := by
  rw [← Bool.not_eq_true, String.isEmpty_iff, ← String.toList_eq_nil_iff, toList_ofMount]
  simp

theorem isAllBlank_ofMount (mount serial : String) : isAllBlank (ofMount mount serial) = false := by
  rw [isAllBlank, toList_ofMount, List.all_eq_false]
  exact ⟨mountSeparator, by simp, by decide⟩

theorem hasLeadingBlank_ofMount (mount serial : String) :
    hasLeadingBlank (ofMount mount serial) = hasLeadingBlank mount := by
  rw [hasLeadingBlank, hasLeadingBlank, toList_ofMount]
  cases mount.toList <;> rfl

theorem hasTrailingBlank_ofMount (mount serial : String) :
    hasTrailingBlank (ofMount mount serial) = hasTrailingBlank serial := by
  rw [hasTrailingBlank, hasTrailingBlank, toList_ofMount, List.getLast?_append]
  cases serial.toList with
  | nil => rfl
  | cons c rest =>
      rw [List.getLast?_cons_cons, List.getLast?_cons]
      rfl

/-- The colon shields the mount, so that only blanks at the end of the serial are lost. -/
theorem trim_ofMount {mount : String} (hlead : hasLeadingBlank mount = false) (serial : String) :
    trim (ofMount mount serial) = ofMount mount (trimEnd serial) := by
  apply String.toList_injective
  rw [trim, String.toList_ofList, toList_ofMount, toList_ofMount, toList_trimEnd]
  exact trimChars_append_cons (by decide) hlead serial.toList

theorem resolve_ofMount {mounts : List String} {mount : String} (hmem : mount ∈ mounts)
    (hlead : hasLeadingBlank mount = false) (hplain : mountSeparator ∉ mount.toList)
    (serial : String) :
    resolve mounts (ofMount mount serial) =
      if isSerial (trimEnd serial) then .ok (mount, trimEnd serial)
      else .error (.invalidCertificateId (ofMount mount (trimEnd serial))) := by
  have hcut : cut? (ofMount mount (trimEnd serial)) mountSeparator = some (mount, trimEnd serial) :=
    cut?_append_separator hplain _
  simp [resolve, trim_ofMount hlead, ofMount_ne_empty, hcut, hmem]

theorem resolve_ofMount_of_isSerial {mounts : List String} {mount : String}
    (hmem : mount ∈ mounts) (hlead : hasLeadingBlank mount = false)
    (hplain : mountSeparator ∉ mount.toList) {serial : String}
    (hserial : isSerial serial = true) (htrail : hasTrailingBlank serial = false) :
    resolve mounts (ofMount mount serial) = .ok (mount, serial) := by
  rw [resolve_ofMount hmem hlead hplain, (trimEnd_eq_self_iff serial).mpr htrail, if_pos hserial]

theorem resolveSerial_eq_ok {mounts : List String} {id mount serial : String}
    (hok : resolveSerial mounts id = .ok (mount, serial)) :
    isSerial serial = true ∧ mounts = [mount] ∧ id = serial := by
  unfold resolveSerial at hok
  split at hok
  · split at hok
    · next hserial =>
        cases hok
        exact ⟨hserial, rfl, rfl⟩
    · cases hok
  · cases hok

/-- The inversion lemma: an id names its mount before the first colon, or it is a serial alone. -/
theorem resolve_eq_ok {mounts : List String} {id mount serial : String}
    (hok : resolve mounts id = .ok (mount, serial)) :
    isSerial serial = true ∧
      ((mount ∈ mounts ∧ mountSeparator ∉ mount.toList ∧ trim id = ofMount mount serial) ∨
        (mounts = [mount] ∧ trim id = serial)) := by
  unfold resolve at hok
  generalize trim id = text at hok ⊢
  dsimp only at hok
  split at hok
  · cases hok
  · split at hok
    · next before after hcut =>
        obtain ⟨hbefore, htext⟩ := cut?_eq_some_iff.mp hcut
        split at hok
        · next hmount =>
            split at hok
            · next hserial =>
                cases hok
                exact ⟨hserial, .inl ⟨List.contains_iff_mem.mp hmount, hbefore, htext⟩⟩
            · cases hok
        · obtain ⟨hserial, hplace⟩ := resolveSerial_eq_ok hok
          exact ⟨hserial, .inr hplace⟩
    · obtain ⟨hserial, hplace⟩ := resolveSerial_eq_ok hok
      exact ⟨hserial, .inr hplace⟩

theorem mem_of_resolve {mounts : List String} {id mount serial : String}
    (hok : resolve mounts id = .ok (mount, serial)) : mount ∈ mounts := by
  rcases (resolve_eq_ok hok).2 with ⟨hmem, -, -⟩ | ⟨rfl, -⟩
  · exact hmem
  · exact List.mem_singleton_self mount

theorem mem_of_mem_serial {mounts : List String} {id mount serial : String}
    (hok : resolve mounts id = .ok (mount, serial)) {c : Char} (hc : c ∈ serial.toList) :
    c ∈ id.toList := by
  apply mem_of_mem_trim
  rcases (resolve_eq_ok hok).2 with ⟨-, -, hid⟩ | ⟨-, hid⟩
  · rw [hid, toList_ofMount]
    exact List.mem_append_right _ (List.mem_cons_of_mem _ hc)
  · rwa [hid]

theorem trim_ofMount_ne (mount serial : String) : trim (ofMount mount serial) ≠ serial := by
  intro htrim
  have hcount := countP_trim (ofMount mount serial)
  rw [htrim, toList_ofMount, List.countP_append, List.countP_cons_of_pos (by decide)] at hcount
  omega

theorem resolve_ofMount_eq_ok_iff {mounts : List String} {mount serial : String}
    (hmem : mount ∈ mounts) :
    resolve mounts (ofMount mount serial) = .ok (mount, serial) ↔
      mountSeparator ∉ mount.toList ∧ hasLeadingBlank mount = false ∧
        isSerial serial = true ∧ hasTrailingBlank serial = false := by
  constructor
  · intro hok
    obtain ⟨hserial, ⟨-, hplain, htrim⟩ | ⟨-, hbare⟩⟩ := resolve_eq_ok hok
    · obtain ⟨hlead, htrail⟩ := (trim_eq_self_iff _).mp htrim
      rw [hasLeadingBlank_ofMount] at hlead
      rw [hasTrailingBlank_ofMount] at htrail
      exact ⟨hplain, hlead, hserial, htrail⟩
    · exact absurd hbare (trim_ofMount_ne mount serial)
  · rintro ⟨hplain, hlead, hserial, htrail⟩
    exact resolve_ofMount_of_isSerial hmem hlead hplain hserial htrail

theorem resolve_ofMount_eq_iff {mounts : List String} {mount serial : String}
    {place : String × String} (hmem : mount ∈ mounts) (hlead : hasLeadingBlank mount = false)
    (hok : resolve mounts (ofMount mount serial) = .ok place) :
    place = (mount, serial) ↔
      mountSeparator ∉ mount.toList ∧ hasTrailingBlank serial = false := by
  constructor
  · rintro rfl
    obtain ⟨hplain, -, -, htrail⟩ := (resolve_ofMount_eq_ok_iff hmem).mp hok
    exact ⟨hplain, htrail⟩
  · rintro ⟨hplain, htrail⟩
    rw [resolve_ofMount hmem hlead hplain, (trimEnd_eq_self_iff serial).mpr htrail] at hok
    split at hok
    · exact (Except.ok.inj hok).symm
    · cases hok

/-! ## Mounts that cannot be told apart -/

def IsBelow (mount other : String) : Prop :=
  other.toList ++ [mountSeparator] <+: mount.toList

instance (mount other : String) : Decidable (IsBelow mount other) :=
  inferInstanceAs (Decidable (_ <+: _))

/-- No mount stands twice, and none continues another one after a separator. -/
def MountsApart (mounts : List String) : Prop :=
  mounts.Pairwise fun mount other =>
    mount ≠ other ∧ ¬ IsBelow mount other ∧ ¬ IsBelow other mount

instance (mounts : List String) : Decidable (MountsApart mounts) :=
  inferInstanceAs (Decidable (mounts.Pairwise _))

theorem isBelow_iff {mount other : String} :
    IsBelow mount other ↔ ∃ rest, mount = ofMount other rest := by
  constructor
  · rintro ⟨rest, hrest⟩
    refine ⟨String.ofList rest, String.toList_injective ?_⟩
    rw [toList_ofMount, String.toList_ofList, ← hrest, List.append_assoc]
    rfl
  · rintro ⟨rest, rfl⟩
    refine ⟨rest.toList, ?_⟩
    rw [toList_ofMount, List.append_assoc]
    rfl

theorem ofMount_right_inj {mount serial number : String} :
    ofMount mount serial = ofMount mount number ↔ serial = number := by
  rw [← String.toList_inj, toList_ofMount, toList_ofMount, List.append_cancel_left_eq,
    List.cons_inj_right, String.toList_inj]

theorem ofMount_ofMount (mount rest serial : String) :
    ofMount (ofMount mount rest) serial = ofMount mount (ofMount rest serial) := by
  apply String.toList_injective
  simp [toList_ofMount]

private theorem eq_or_isBelow_of_append {mount other serial number : String} {rest : List Char}
    (hother : other.toList = mount.toList ++ rest)
    (hrest : mountSeparator :: serial.toList = rest ++ mountSeparator :: number.toList) :
    mount = other ∨ IsBelow other mount := by
  cases rest with
  | nil =>
      rw [List.append_nil] at hother
      exact .inl (String.toList_injective hother.symm)
  | cons first rest =>
      obtain rfl := (List.cons.inj hrest).1
      exact .inr ⟨rest, by rw [hother, List.append_assoc]; rfl⟩

theorem exists_ofMount_eq_iff {mount other : String} :
    (∃ serial number, ofMount mount serial = ofMount other number) ↔
      mount = other ∨ IsBelow mount other ∨ IsBelow other mount := by
  constructor
  · rintro ⟨serial, number, hid⟩
    have hlist := congrArg String.toList hid
    rw [toList_ofMount, toList_ofMount] at hlist
    rcases List.append_eq_append_iff.mp hlist with ⟨rest, hother, hrest⟩ | ⟨rest, hmount, hrest⟩
    · rcases eq_or_isBelow_of_append hother hrest with heq | hbelow
      · exact .inl heq
      · exact .inr (.inr hbelow)
    · rcases eq_or_isBelow_of_append hmount hrest with heq | hbelow
      · exact .inl heq.symm
      · exact .inr (.inl hbelow)
  · rintro (rfl | hbelow | hbelow)
    · exact ⟨"01", "01", rfl⟩
    · obtain ⟨rest, rfl⟩ := isBelow_iff.mp hbelow
      exact ⟨"01", ofMount rest "01", ofMount_ofMount other rest "01"⟩
    · obtain ⟨rest, rfl⟩ := isBelow_iff.mp hbelow
      exact ⟨ofMount rest "01", "01", (ofMount_ofMount mount rest "01").symm⟩

end CertCatalog.CertificateId
