import CertCatalog.Proofs.CertificateId

/-!
# Which ids can be read

The two readers of ids accept more than what is minted: blanks around the parts, a serial without
its mount, an id without its vault.  The main statements say which texts they accept and which of the
minted ids they take apart again into what these were minted from.
-/

namespace CertCatalog.CertificateId

open CertCatalog.Text

/-! ## Across vaults -/

theorem exists_parse_iff {vaultIds : List String} {value : String} :
    (∃ place, parse vaultIds value = .ok place) ↔
      (∃ before after, separator ∉ before.toList ∧ value = compose before after ∧
        isAllBlank before = false ∧ isAllBlank after = false) ∨
      (separator ∉ value.toList ∧ isAllBlank value = false ∧ vaultIds.length = 1) := by
  constructor
  · rintro ⟨⟨vaultId, localId⟩, hparse⟩
    rcases parse_eq_ok_iff.mp hparse with
      ⟨before, after, hbefore, hvalue, hvault, hlocal, -, -⟩ | ⟨hplain, rfl, hblank, -⟩
    · exact .inl ⟨before, after, hbefore, hvalue, hvault, hlocal⟩
    · exact .inr ⟨hplain, hblank, rfl⟩
  · rintro (⟨before, after, hbefore, rfl, hvault, hlocal⟩ | ⟨hplain, hblank, hlength⟩)
    · exact ⟨_, parse_compose_eq_trim hbefore hvault hlocal vaultIds⟩
    · obtain ⟨only, rfl⟩ := List.length_eq_one_iff.mp hlength
      exact ⟨_, parse_eq_ok_iff.mpr (.inr ⟨hplain, rfl, hblank, rfl⟩)⟩

theorem localId_of_parse {vaultIds : List String} {value vaultId localId : String}
    (hparse : parse vaultIds value = .ok (vaultId, localId)) :
    trim localId = localId ∧ localId ≠ "" := by
  rcases parse_eq_ok_iff.mp hparse with
    ⟨-, after, -, -, -, hblank, -, rfl⟩ | ⟨-, -, hblank, rfl⟩
  all_goals
    refine ⟨trim_trim _, fun hempty => ?_⟩
    rw [trim_eq_empty_iff, hblank] at hempty
    exact Bool.false_ne_true hempty

theorem vaultId_of_parse {vaultIds : List String} {value vaultId localId : String}
    (hparse : parse vaultIds value = .ok (vaultId, localId)) :
    (separator ∈ value.toList →
      trim vaultId = vaultId ∧ vaultId ≠ "" ∧ separator ∉ vaultId.toList) ∧
    (separator ∉ value.toList → vaultIds = [vaultId]) := by
  rcases parse_eq_ok_iff.mp hparse with
    ⟨before, after, hbefore, rfl, hblank, -, rfl, -⟩ | ⟨hplain, hvaults, -, -⟩
  · refine ⟨fun _ => ⟨trim_trim before, fun hempty => ?_, fun hmem => ?_⟩, fun hplain => ?_⟩
    · rw [trim_eq_empty_iff, hblank] at hempty
      exact Bool.false_ne_true hempty
    · exact hbefore (mem_of_mem_trim hmem)
    · exact absurd (by simp) hplain
  · exact ⟨fun hmem => absurd hmem hplain, fun _ => hvaults⟩

theorem parse_compose_of_trimmed {vaultId localId : String}
    (haddressable : isAddressable vaultId = true) (htrimmed : trim localId = localId)
    (hne : localId ≠ "") (vaultIds : List String) :
    parse vaultIds (compose vaultId localId) = .ok (vaultId, localId) := by
  rw [parse_compose haddressable (isAllBlank_eq_false_of_trim htrimmed hne), htrimmed]

theorem parse_of_not_mem {only value : String} (haddressable : isAddressable only = true)
    (hplain : separator ∉ value.toList) (hblank : isAllBlank value = false) :
    parse [only] value = .ok (only, trim value) ∧
      parse [only] (compose only value) = .ok (only, trim value) :=
  ⟨parse_eq_ok_iff.mpr (.inr ⟨hplain, rfl, hblank, rfl⟩), parse_compose haddressable hblank [only]⟩

/--
An id across vaults is accepted exactly if something stands before and after its first bar, or if it
has no bar, is not blank and there is one vault only.  The parts it is taken apart into are trimmed.
What is composed from a vault id without a bar is taken apart into what it was composed from, but for
the blanks around the parts; so different parts give different ids, and an id that is composed from
the parts of another one has the same parts.
-/
theorem composed_ids_parse (vaultIds : List String) :
    (∀ value, (∃ place, parse vaultIds value = .ok place) ↔
      (∃ before after, separator ∉ before.toList ∧ value = compose before after ∧
        isAllBlank before = false ∧ isAllBlank after = false) ∨
      (separator ∉ value.toList ∧ isAllBlank value = false ∧ vaultIds.length = 1)) ∧
    (∀ value vaultId localId, parse vaultIds value = .ok (vaultId, localId) →
      (trim localId = localId ∧ localId ≠ "") ∧
      (separator ∈ value.toList →
        trim vaultId = vaultId ∧ vaultId ≠ "" ∧ separator ∉ vaultId.toList) ∧
      (separator ∉ value.toList → vaultIds = [vaultId])) ∧
    (∀ vaultId localId, separator ∉ vaultId.toList → isAllBlank vaultId = false →
      isAllBlank localId = false →
        parse vaultIds (compose vaultId localId) = .ok (trim vaultId, trim localId)) ∧
    (∀ vaultId localId, isAddressable vaultId = true → trim localId = localId → localId ≠ "" →
      parse vaultIds (compose vaultId localId) = .ok (vaultId, localId)) ∧
    (∀ vaultId other localId otherId, isAddressable vaultId = true → isAddressable other = true →
      compose vaultId localId = compose other otherId → vaultId = other ∧ localId = otherId) ∧
    (∀ value vaultId localId, parse vaultIds value = .ok (vaultId, localId) →
      isAddressable vaultId = true →
        parse vaultIds (compose vaultId localId) = .ok (vaultId, localId)) ∧
    ∀ only value, vaultIds = [only] → isAddressable only = true → separator ∉ value.toList →
      isAllBlank value = false →
        parse vaultIds value = .ok (only, trim value) ∧
          parse vaultIds (compose only value) = .ok (only, trim value) := by
  refine ⟨fun _ => exists_parse_iff,
    fun _ _ _ hparse => ⟨localId_of_parse hparse, vaultId_of_parse hparse⟩,
    fun _ _ hplain hvault hlocal => parse_compose_eq_trim hplain hvault hlocal vaultIds,
    fun _ _ hvault htrimmed hne => parse_compose_of_trimmed hvault htrimmed hne vaultIds,
    fun _ _ _ _ hvault hother => compose_inj hvault hother, ?_, ?_⟩
  · intro value vaultId localId hparse hvault
    obtain ⟨htrimmed, hne⟩ := localId_of_parse hparse
    exact parse_compose_of_trimmed hvault htrimmed hne vaultIds
  · rintro only value rfl honly hplain hblank
    exact parse_of_not_mem honly hplain hblank

theorem composed_ids_parse_of_sample :
    parse ["a", "b"] (compose " a " "pki|odd ") = .ok ("a", "pki|odd") ∧
      parse ["a", "b"] (compose "a" "pki|odd") = .ok ("a", "pki|odd") ∧
      ¬ (∃ place, parse ["a", "b"] "pki:01" = .ok place) ∧
      parse ["a"] " pki:01" = .ok ("a", "pki:01") := by
  obtain ⟨haccepted, -, htrimmed, -, -, hstable, -⟩ := composed_ids_parse ["a", "b"]
  have hparse : parse ["a", "b"] (compose " a " "pki|odd ") = .ok ("a", "pki|odd") :=
    htrimmed " a " "pki|odd " (by decide) (by decide) (by decide)
  refine ⟨hparse, hstable _ "a" "pki|odd" hparse (by decide), fun hplace => ?_, ?_⟩
  · rcases (haccepted "pki:01").mp hplace with ⟨before, after, -, hvalue, -⟩ | ⟨-, -, hlength⟩
    · have hbar : separator ∈ ("pki:01" : String).toList := by
        rw [hvalue, compose]
        simp
      exact absurd hbar (by decide)
    · exact absurd hlength (by decide)
  · exact ((composed_ids_parse ["a"]).2.2.2.2.2.2 "a" " pki:01" rfl (by decide) (by decide)
      (by decide)).1

/-! ## Within a vault -/

theorem isSerial_iff {text : String} :
    isSerial text = true ↔ text ≠ "" ∧ '/' ∉ text.toList ∧ text ≠ "." ∧ text ≠ ".." := by
  simp [isSerial, and_assoc]

/--
An id that is minted for one of the mounts is resolved to this mount and its serial exactly if the
mount has no colon and no blank at its beginning, and the serial is one that can stand in a path and
has no blank at its end.  Whatever an id is resolved to is one of the mounts and a step of a path;
only where there is a single mount may the id leave it out.
-/
theorem minted_ids_resolve_iff (mounts : List String) :
    (∀ mount ∈ mounts, ∀ serial,
      resolve mounts (ofMount mount serial) = .ok (mount, serial) ↔
        mountSeparator ∉ mount.toList ∧ hasLeadingBlank mount = false ∧
          isSerial serial = true ∧ hasTrailingBlank serial = false) ∧
    ∀ id mount serial, resolve mounts id = .ok (mount, serial) →
      mount ∈ mounts ∧
        (serial ≠ "" ∧ '/' ∉ serial.toList ∧ serial ≠ "." ∧ serial ≠ "..") ∧
        (mounts.length ≠ 1 → trim id = ofMount mount serial) := by
  refine ⟨fun mount hmem serial => resolve_ofMount_eq_ok_iff hmem, ?_⟩
  intro id mount serial hok
  obtain ⟨hserial, hplace⟩ := resolve_eq_ok hok
  refine ⟨mem_of_resolve hok, isSerial_iff.mp hserial, fun hlength => ?_⟩
  rcases hplace with ⟨-, -, hid⟩ | ⟨rfl, -⟩
  · exact hid
  · exact absurd rfl hlength

theorem minted_ids_resolve_of_sample :
    resolve ["pki", "a:b"] (ofMount "pki" "1a:2b") = .ok ("pki", "1a:2b") ∧
      resolve ["pki", "a:b"] (ofMount "a:b" "01") ≠ .ok ("a:b", "01") ∧
      resolve ["pki", "a:b"] (ofMount "pki" "01 ") ≠ .ok ("pki", "01 ") ∧
      ∀ mount, resolve ["pki", "a:b"] "01" ≠ .ok (mount, "01") := by
  obtain ⟨hminted, hresolved⟩ := minted_ids_resolve_iff ["pki", "a:b"]
  refine ⟨(hminted "pki" (by decide) "1a:2b").mpr (by decide), fun hok => ?_, fun hok => ?_,
    fun mount hok => ?_⟩
  · exact absurd ((hminted "a:b" (by decide) "01").mp hok).1 (by decide)
  · exact absurd ((hminted "pki" (by decide) "01 ").mp hok).2.2.2 (by decide)
  · obtain ⟨hmem, -, hid⟩ := hresolved "01" mount "01" hok
    have hnot : ∀ mount ∈ ["pki", "a:b"], trim "01" ≠ ofMount mount "01" := by decide +kernel
    exact hnot mount hmem (hid (by decide))

end CertCatalog.CertificateId
