import CertCatalog.Proofs.Catalog.Checks
import CertCatalog.Proofs.Catalog.FanOut
import CertCatalog.Proofs.Fleet.Invariants

/-!
# Runs of a catalog

What can happen to a catalog and its clients, one thing after another, and what holds throughout:
whatever every operation of one client leaves true.
-/

namespace CertCatalog

inductive CatalogStep where
  | catalog (step : ClientStep)
  | listByVault (deadline : Nat)
  | client (name : Nat) (step : ClientStep)
  | readCrl (name : Nat) (mount : String)
  | rotateCrl (name : Nat) (mount : String)
  | command (name : Nat) (change : MemoryBackend.BackendCommand)
  | sleep (millis : Nat)
  deriving DecidableEq

namespace Catalog

def next (c : Catalog) (fleet : Fleet) : CatalogStep → Fleet
  | .catalog step => (c.source.step fleet step).2
  | .listByVault deadline => (c.listByVault deadline fleet).2
  | .client name step => ((Fleet.source name).step fleet step).2
  | .readCrl name mount => (Fleet.readCrl name mount fleet).2
  | .rotateCrl name mount => (Fleet.rotateCrl name mount fleet).2
  | .command name change => fleet.modify name (Client.apply change)
  | .sleep millis => fleet.advance millis

def after (c : Catalog) (fleet : Fleet) (steps : List CatalogStep) : Fleet :=
  steps.foldl c.next fleet

end Catalog

namespace Fleet.IsInvariant

open Catalog

variable {P : Fleet → Prop}

/-! ## One vault -/

theorem ask (h : IsInvariant P) (c : Catalog) (vaultId : String) :
    Action.Keeps P (c.ask vaultId) := by
  intro fleet hfleet
  unfold Catalog.ask
  cases c.client? vaultId with
  | none => exact hfleet
  | some name => exact (h.source name).list fleet hfleet

theorem probe (h : IsInvariant P) (c : Catalog) (deadline : Nat) (vaultId : String)
    {fleet : Fleet} (hfleet : P fleet) : P (c.probe deadline vaultId fleet).2 := by
  cases hclient : c.client? vaultId with
  | none => simpa only [probe_of_missing hclient] using hfleet
  | some name =>
      rw [probe_of_client hclient]
      exact h.listWithin deadline name fleet hfleet

theorem listByVault (h : IsInvariant P) (c : Catalog) (deadline : Nat) {fleet : Fleet}
    (hfleet : P fleet) : P (c.listByVault deadline fleet).2 := by
  have hprobing : ∀ vaultId, Action.Keeps P (c.probing deadline vaultId) :=
    fun vaultId _ hs => h.probe c deadline vaultId hs
  have hprobed := Action.Keeps.attemptAll hprobing c.vaultIds hfleet
  rw [attemptAll_probing] at hprobed
  exact h.advance _ _ hprobed

theorem resolved {α : Type} (c : Catalog) (id : String)
    {action : String × String × Nat → Action Fleet α}
    (haction : ∀ target, Action.Keeps P (action target)) :
    Action.Keeps P (Action.answer (c.resolve id) >>= action) :=
  (Action.Keeps.answer _ _).bind haction

/-! ## All vaults -/

theorem list (h : IsInvariant P) (c : Catalog) : Action.Keeps P c.list := by
  intro fleet hfleet
  by_cases hne : c.vaultIds = []
  · simpa [list_apply, hne] using hfleet
  · rw [list_eq_joinListings hne]
    exact Action.Keeps.attemptAll (h.ask c) c.vaultIds hfleet

theorem foldl_clients {change : Fleet → Nat → Fleet}
    (hchange : ∀ fleet name, P fleet → P (change fleet name)) (names : List Nat) {fleet : Fleet}
    (hfleet : P fleet) : P (names.foldl change fleet) := by
  induction names generalizing fleet with
  | nil => exact hfleet
  | cons name rest ih => exact ih (hchange fleet name hfleet)

theorem catalogSource (h : IsInvariant P) (c : Catalog) : c.source.Keeps P where
  list := h.list c
  details id := resolved c id fun target =>
    ((h.source target.2.2).details target.2.1).bind fun _ => .answer _ _
  pem id := resolved c id fun target => (h.source target.2.2).pem target.2.1
  revoke id token := by
    show Action.Keeps P (c.revoke id token)
    unfold Catalog.revoke
    split
    · exact .answer _ _
    · exact resolved c id fun target => (h.source target.2.2).revoke target.2.1 token
  check := keeps_check (fun name => (h.source name).check) c
  invalidate := fun _ hfleet =>
    foldl_clients (fun fleet name => (h.source name).invalidate fleet) _ hfleet
  shutdown := fun _ hfleet =>
    foldl_clients (fun fleet name => (h.source name).shutdown fleet) _ hfleet

/-! ## Steps and runs -/

theorem next (h : IsInvariant P) (c : Catalog) {fleet : Fleet} (hfleet : P fleet)
    (step : CatalogStep) : P (c.next fleet step) := by
  cases step with
  | catalog step => exact (h.catalogSource c).step hfleet step
  | listByVault deadline => exact h.listByVault c deadline hfleet
  | client name step => exact (h.source name).step hfleet step
  | readCrl name mount => exact h.readCrl name mount fleet hfleet
  | rotateCrl name mount => exact h.rotateCrl name mount fleet hfleet
  | command name change => exact h.command fleet name change hfleet
  | sleep millis => exact h.advance fleet millis hfleet

/-- What holds of a fleet at first holds after any steps. -/
theorem after (h : IsInvariant P) (c : Catalog) {fleet : Fleet} (hfleet : P fleet)
    (steps : List CatalogStep) : P (c.after fleet steps) := by
  induction steps generalizing fleet with
  | nil => exact hfleet
  | cons step rest ih => exact ih (h.next c hfleet step)

end Fleet.IsInvariant
end CertCatalog
