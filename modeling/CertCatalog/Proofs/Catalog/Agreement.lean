import CertCatalog.Proofs.Catalog.FanOut
import CertCatalog.Proofs.Catalog.SteadyListing

/-!
# The two listings of a catalog

A catalog lists its vaults one after another, and it lists them at once with one entry for each.
For steady vaults that all answer before the deadline the first listing is what joining the entries
of the second one gives.
-/

namespace CertCatalog

def VaultListing.outcome (l : VaultListing) : Outcome (List Certificate) :=
  match l.error with
  | some e => .error e
  | none => .ok l.certificates

namespace VaultListing

theorem outcome_eq_error_iff {l : VaultListing} {e : CatalogError} :
    l.outcome = .error e ↔ l.error = some e := by
  unfold outcome
  cases l.error <;> simp

theorem isOk_outcome (l : VaultListing) : l.outcome.isOk = l.isOk := by
  unfold outcome isOk
  cases l.error <;> rfl

end VaultListing

namespace Catalog

/-! ## Entries and answers -/

theorem outcome_listingOf (deadline : Nat) (vaultId : String) (elapsed : Nat)
    (answer : Outcome (List Certificate)) :
    (listingOf deadline vaultId elapsed (some answer)).outcome = shown vaultId answer := by
  cases answer <;> rfl

theorem certificates_listingOf {deadline : Nat} {vaultId : String} {elapsed : Nat}
    {answer : Option (Outcome (List Certificate))}
    (herror : (listingOf deadline vaultId elapsed answer).error ≠ none) :
    (listingOf deadline vaultId elapsed answer).certificates = [] := by
  rcases answer with - | (e | certificates)
  · rfl
  · rfl
  · exact absurd rfl herror

theorem certificates_probe {c : Catalog} {deadline : Nat} {vaultId : String} {fleet : Fleet}
    (herror : (c.probe deadline vaultId fleet).1.error ≠ none) :
    (c.probe deadline vaultId fleet).1.certificates = [] := by
  cases hclient : c.client? vaultId with
  | none =>
      rw [probe_of_missing hclient]
      rfl
  | some name =>
      rw [probe_of_client hclient] at herror ⊢
      exact certificates_listingOf herror

theorem certificates_of_mem_listByVault {c : Catalog} {deadline : Nat} {fleet : Fleet}
    {entry : VaultListing} (hentry : entry ∈ (c.listByVault deadline fleet).1)
    (herror : entry.error ≠ none) : entry.certificates = [] := by
  have hall : List.Forall₂ (fun _ entry => entry.error ≠ none → entry.certificates = [])
      c.vaultIds (c.listByVault deadline fleet).1 :=
    listByVault_forall₂ (fun _ => True) _ (fun _ _ _ _ => ⟨certificates_probe, trivial⟩) trivial
  obtain ⟨_, -, hempty⟩ := Action.exists_item_of_mem hall hentry
  exact hempty herror

/-! ## Listing at once -/

/-- No time has passed, and every client of the catalog answers as it did, after the same delay. -/
structure IsUndisturbed (c : Catalog) (fleet later : Fleet) (last : Nat) : Prop where
  clock_eq : later.clock = fleet.clock
  keepsAnswer : ∀ vaultId ∈ c.vaultIds, ∀ name, c.client? vaultId = some name →
    later.KeepsAnswer last name (Fleet.list name fleet).1
  listDelay_eq : ∀ name, later.listDelay name = fleet.listDelay name

theorem IsUndisturbed.probe {c : Catalog} {fleet later : Fleet} {last : Nat}
    (h : c.IsUndisturbed fleet later last) (hle : fleet.clock.wall ≤ last) (deadline : Nat)
    (vaultId : String) : c.IsUndisturbed fleet (c.probe deadline vaultId later).2 last := by
  cases hclient : c.client? vaultId with
  | none =>
      rw [probe_of_missing hclient]
      exact h
  | some name =>
      rw [probe_of_client hclient]
      have hnow : later.clock.wall ≤ last := h.clock_eq ▸ hle
      refine ⟨?_, fun other hother called hcalled => ?_, fun called => ?_⟩
      · exact (Fleet.clock_listWithin deadline name later).trans h.clock_eq
      · exact (h.keepsAnswer other hother called hcalled).listWithin hnow deadline name
      · exact (Fleet.listDelay_listWithin deadline name called later).trans (h.listDelay_eq called)

/-- The step lemma: a probe that is not given up says what its vault answers at first. -/
theorem IsUndisturbed.outcome_probe {c : Catalog} {fleet later : Fleet} {last : Nat}
    (h : c.IsUndisturbed fleet later last) (hle : fleet.clock.wall ≤ last) {deadline : Nat}
    {vaultId : String} (hvault : vaultId ∈ c.vaultIds)
    (hintime : ∀ name, c.client? vaultId = some name → fleet.listDelay name ≤ deadline) :
    (c.probe deadline vaultId later).1.outcome = shown vaultId (c.ask vaultId fleet).1 := by
  unfold ask
  cases hclient : c.client? vaultId with
  | none =>
      rw [probe_of_missing hclient]
      rfl
  | some name =>
      have hanswer := h.keepsAnswer vaultId hvault name hclient
      have hnow : later.clock.wall ≤ last := h.clock_eq ▸ hle
      have hdelay : ¬ deadline < later.listDelay name := by
        rw [h.listDelay_eq]
        exact Nat.not_lt_of_le (hintime name hclient)
      rw [probe_of_keepsAnswer hclient hanswer hnow, if_neg hdelay, outcome_listingOf]

theorem map_outcome_listByVault {c : Catalog} {fleet : Fleet} {last deadline : Nat}
    (hsteady : c.IsSteady fleet last) (hle : fleet.clock.wall ≤ last)
    (hintime : ∀ vaultId ∈ c.vaultIds, ∀ name, c.client? vaultId = some name →
      fleet.listDelay name ≤ deadline) :
    (c.listByVault deadline fleet).1.map VaultListing.outcome =
      c.vaultIds.map fun vaultId => shown vaultId (c.ask vaultId fleet).1 := by
  have hstart : c.IsUndisturbed fleet fleet last :=
    ⟨rfl, fun _ hvault _ hclient => hsteady.keepsAnswer hle hvault hclient, fun _ => rfl⟩
  exact map_listByVault (c.IsUndisturbed fleet · last) VaultListing.outcome _
    (fun vaultId hvault later h => ⟨h.outcome_probe hle hvault (hintime vaultId hvault),
      h.probe hle deadline vaultId⟩) hstart

theorem list_eq_joined_entries {c : Catalog} (hne : c.vaultIds ≠ []) {fleet : Fleet}
    {deadline : Nat} (hsteady : c.IsSteady fleet (c.list fleet).2.clock.wall)
    (hintime : ∀ vaultId ∈ c.vaultIds, ∀ name, c.client? vaultId = some name →
      fleet.listDelay name ≤ deadline) :
    (c.list fleet).1 =
      joinListings ((c.listByVault deadline fleet).1.map VaultListing.outcome) := by
  rw [map_outcome_listByVault hsteady (c.wall_le_list fleet) hintime, list_eq_joinListings hne,
    answers_of_isSteady hsteady, List.map_map]
  rfl

theorem gathered_outcomes {entries : List VaultListing}
    (hempty : ∀ entry ∈ entries, entry.error ≠ none → entry.certificates = []) :
    gathered (entries.map VaultListing.outcome) = entries.flatMap (·.certificates) := by
  rw [gathered, List.flatMap_map]
  apply List.flatMap_congr
  intro entry hentry
  unfold VaultListing.outcome
  cases herror : entry.error with
  | none => rfl
  | some e => exact (hempty entry hentry (by simp [herror])).symm

/--
The listing in turn of steady vaults fails exactly if every entry of the listing at once has an
error, with the error of the last entry; otherwise it holds the certificates of all entries, sorted.
No client of the catalog needs longer than the deadline.  Entries with an error hold no
certificates, and all others count as successes.
-/
theorem list_agrees_with_listByVault {c : Catalog} (hne : c.vaultIds ≠ []) {fleet : Fleet}
    {deadline : Nat} (hsteady : c.IsSteady fleet (c.list fleet).2.clock.wall)
    (hintime : ∀ vaultId ∈ c.vaultIds, ∀ name, c.client? vaultId = some name →
      fleet.listDelay name ≤ deadline) :
    (∀ e, (c.list fleet).1 = .error e ↔
        (∀ entry ∈ (c.listByVault deadline fleet).1, ∃ e, entry.error = some e) ∧
          (c.listByVault deadline fleet).1.getLast?.bind (·.error) = some e) ∧
      ((∃ entry ∈ (c.listByVault deadline fleet).1, entry.error = none) →
        (c.list fleet).1 = .ok (Certificate.sort
          ((c.listByVault deadline fleet).1.flatMap (·.certificates)))) ∧
      ∀ entry ∈ (c.listByVault deadline fleet).1,
        (entry.error ≠ none → entry.certificates = []) ∧
          (entry.isOk = true ↔ entry.error = none) := by
  have hjoined := list_eq_joined_entries hne hsteady hintime
  refine ⟨fun e => ?_, ?_, fun entry hentry =>
    ⟨certificates_of_mem_listByVault hentry, Option.isNone_iff_eq_none⟩⟩
  · have hnonempty : (c.listByVault deadline fleet).1.map VaultListing.outcome ≠ [] := by
      intro hnil
      have hids := c.vaultIds_listByVault deadline fleet
      rw [List.map_eq_nil_iff.mp hnil] at hids
      exact hne hids.symm
    rw [hjoined, joinListings_eq_error_iff hnonempty]
    simp only [List.forall_mem_map, VaultListing.outcome_eq_error_iff, List.getLast?_map,
      Option.map_eq_some_iff, Option.bind_eq_some_iff]
  · rintro ⟨entry, hentry, hnone⟩
    have hok : entry.outcome.isOk = true :=
      entry.isOk_outcome.trans (Option.isNone_iff_eq_none.mpr hnone)
    rw [hjoined, joinListings_of_isOk (List.mem_map_of_mem hentry) hok,
      gathered_outcomes fun _ h => certificates_of_mem_listByVault h]

theorem listDelay_mixed (name : Nat) : mixedFleet.listDelay name ≤ 20 := by
  match name with
  | 0 | 1 | 2 => decide
  | _ + 3 => exact Nat.zero_le 20

theorem list_agrees_mixed :
    mixedCatalog.vaultIds ≠ [] ∧
      (∃ entry ∈ (mixedCatalog.listByVault 20 mixedFleet).1, entry.error = some .sealed) ∧
      (mixedCatalog.list mixedFleet).1 = .ok (Certificate.sort
        ((mixedCatalog.listByVault 20 mixedFleet).1.flatMap (·.certificates))) := by
  have hne : mixedCatalog.vaultIds ≠ [] := by decide
  obtain ⟨-, hlisted, -⟩ := list_agrees_with_listByVault hne (isSteady_mixed mixedCatalog _)
    fun _ _ name _ => listDelay_mixed name
  exact ⟨hne, by decide +kernel, hlisted (by decide +kernel)⟩

end Catalog
end CertCatalog
