import CertCatalog.Source

/-!
# Joined listings

What a joined listing holds, and when there is one.
-/

namespace CertCatalog

theorem mem_gathered {listings : List (Outcome (List Certificate))} {c : Certificate} :
    c ∈ gathered listings ↔ ∃ listing, .ok listing ∈ listings ∧ c ∈ listing := by
  simp only [gathered, List.mem_flatMap]
  constructor
  · rintro ⟨outcome, houtcome, hc⟩
    cases outcome with
    | ok listing => exact ⟨listing, houtcome, hc⟩
    | error e => simp at hc
  · rintro ⟨listing, hlisting, hc⟩
    exact ⟨.ok listing, hlisting, hc⟩

theorem joinListings_eq_ok {listings : List (Outcome (List Certificate))}
    {certificates : List Certificate} (hok : joinListings listings = .ok certificates) :
    certificates = Certificate.sort (gathered listings) := by
  unfold joinListings at hok
  split at hok
  · contradiction
  · exact (Except.ok.inj hok).symm

theorem mem_of_joinListings {listings : List (Outcome (List Certificate))}
    {certificates : List Certificate} (hok : joinListings listings = .ok certificates)
    {c : Certificate} :
    c ∈ certificates ↔ ∃ listing, .ok listing ∈ listings ∧ c ∈ listing := by
  rw [joinListings_eq_ok hok, (Certificate.sort_perm _).mem_iff, mem_gathered]

/-! ## Success and failure -/

theorem joinListings_of_isOk {listings : List (Outcome (List Certificate))}
    {listing : Outcome (List Certificate)} (hmem : listing ∈ listings)
    (hok : listing.isOk = true) :
    joinListings listings = .ok (Certificate.sort (gathered listings)) := by
  have hany : listings.any (·.isOk) = true := List.any_eq_true.mpr ⟨listing, hmem, hok⟩
  simp only [joinListings, hany]

theorem isOk_eq_false_iff {listing : Outcome (List Certificate)} :
    listing.isOk = false ↔ ∃ e, listing = .error e := by
  cases listing with
  | error e => simp [Except.isOk, Except.toBool]
  | ok certificates => simp [Except.isOk, Except.toBool]

theorem joinListings_of_failed {listings : List (Outcome (List Certificate))}
    (hfailed : ∀ listing ∈ listings, ∃ e, listing = .error e) {e : CatalogError}
    (hlast : listings.getLast? = some (.error e)) : joinListings listings = .error e := by
  have hnone : listings.any (·.isOk) = false := by
    rw [List.any_eq_false]
    intro listing hmem
    rw [isOk_eq_false_iff.mpr (hfailed listing hmem)]
    exact Bool.false_ne_true
  have herror : lastError? listings = some e := by
    obtain ⟨before, rfl⟩ := List.getLast?_eq_some_iff.mp hlast
    simp [lastError?]
  simp only [joinListings, hnone, herror]

theorem joinListings_eq_error_iff {listings : List (Outcome (List Certificate))}
    (hne : listings ≠ []) {e : CatalogError} :
    joinListings listings = .error e ↔
      (∀ listing ∈ listings, ∃ e, listing = .error e) ∧
        listings.getLast? = some (.error e) := by
  constructor
  · intro hjoined
    have hfailed : ∀ listing ∈ listings, ∃ e, listing = .error e := by
      intro listing hmem
      rw [← isOk_eq_false_iff, ← Bool.not_eq_true]
      intro hok
      rw [joinListings_of_isOk hmem hok] at hjoined
      contradiction
    obtain ⟨last, hlast⟩ := Option.isSome_iff_exists.mp (List.getLast?_isSome.mpr hne)
    obtain ⟨found, rfl⟩ := hfailed last (List.mem_of_getLast? hlast)
    have hfound := joinListings_of_failed hfailed hlast
    obtain rfl : found = e := Except.error.inj (hfound.symm.trans hjoined)
    exact ⟨hfailed, hlast⟩
  · rintro ⟨hfailed, hlast⟩
    exact joinListings_of_failed hfailed hlast

end CertCatalog
