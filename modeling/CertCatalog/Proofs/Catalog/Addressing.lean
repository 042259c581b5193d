import CertCatalog.Proofs.Catalog.Enumeration
import CertCatalog.Proofs.Catalog.Revocation
import CertCatalog.Proofs.Fleet.Calls

/-!
# Addressed calls

Details, records and revocations are asked for by id.  The id leads to one client or to none; that
client is called once, and no other one notices.
-/

namespace CertCatalog.Catalog

open CertCatalog.CertificateId CertCatalog.Text

/-! ## Where an id leads -/

theorem isAddressable_of_parse_vaultIds {wanted : List String} {clients : Table (Option Nat)}
    {id vaultId localId : String}
    (hparse : parse (ofClients wanted clients).vaultIds id = .ok (vaultId, localId)) :
    isAddressable vaultId = true :=
  isAddressable_of_parse (fun _ hmem => isAddressable_of_mem_vaultIds hmem) hparse

/-! ## Calls by id -/

/--
What is asked for by id is the operation of the one client that the id leads to, with the id within
its vault; the answer may be shown with the vault.  An id that leads to no client is an error, and
nothing has happened.
-/
structure IsAddressed {α : Type} (c : Catalog) (id : String) (step : String → ClientStep)
    (operation : {σ : Type} → String → CertificateSource σ → Action σ α)
    (shown : String → α → α) (fleet : Fleet) (run : Outcome α × Fleet) : Prop where
  invalid : ∀ e, parse c.vaultIds id = .error e → run = (.error e, fleet)
  missing : ∀ vaultId localId, parse c.vaultIds id = .ok (vaultId, localId) →
    c.client? vaultId = none → run = (.error (.missingClient vaultId), fleet)
  served : ∀ vaultId localId name, parse c.vaultIds id = .ok (vaultId, localId) →
    c.client? vaultId = some name → ∃ answer,
      run.1 = answer.map (shown vaultId) ∧
        Fleet.IsSingleCall name (step localId) (operation localId) fleet answer run.2

section IsAddressed

variable {α : Type} {c : Catalog} {id : String} {step : String → ClientStep}
  {operation : {σ : Type} → String → CertificateSource σ → Action σ α}
  {shown : String → α → α} {fleet : Fleet} {run : Outcome α × Fleet}

theorem isAddressed_of_resolve
    (hfailed : ∀ e, c.resolve id = .error e → run = (.error e, fleet))
    (hserved : ∀ vaultId localId name, c.resolve id = .ok (vaultId, localId, name) →
      run = ((Fleet.call name (step localId) (operation localId) fleet).1.map (shown vaultId),
        (Fleet.call name (step localId) (operation localId) fleet).2)) :
    IsAddressed c id step operation shown fleet run where
  invalid e hparse := hfailed e (resolve_of_parse_error hparse)
  missing vaultId localId hparse hnone :=
    hfailed (.missingClient vaultId) (resolve_of_client?_eq_none hparse hnone)
  served vaultId localId name hparse hclient := by
    rw [hserved vaultId localId name (resolve_of_parse hparse hclient)]
    exact ⟨_, rfl, Fleet.isSingleCall_call name (step localId) (operation localId) fleet⟩

/-- A client is left alone by all ids that lead to vaults of other clients. -/
theorem IsAddressed.leavesAlone (h : IsAddressed c id step operation shown fleet run) {name : Nat}
    (hother : ∀ vaultId localId, parse c.vaultIds id = .ok (vaultId, localId) →
      c.client? vaultId ≠ some name) : Fleet.LeavesAlone name fleet run.2 := by
  cases hparse : parse c.vaultIds id with
  | error e =>
      rw [h.invalid e hparse]
      exact .refl name fleet
  | ok found =>
      obtain ⟨vaultId, localId⟩ := found
      cases hclient : c.client? vaultId with
      | none =>
          rw [h.missing vaultId localId hparse hclient]
          exact .refl name fleet
      | some called =>
          obtain ⟨answer, -, hcall⟩ := h.served vaultId localId called hparse hclient
          refine hcall.others name ?_
          rintro rfl
          exact hother vaultId localId hparse hclient

end IsAddressed

theorem details_isAddressed (c : Catalog) (id : String) (fleet : Fleet) :
    IsAddressed c id .details (fun localId source => source.details localId)
      (fun vaultId found => { found with certificate := prefixed vaultId found.certificate }) fleet
      (c.details id fleet) :=
  isAddressed_of_resolve (fun _ hresolve => details_of_resolve_error hresolve fleet)
    fun _ _ _ hresolve => details_of_resolve hresolve fleet

theorem pem_isAddressed (c : Catalog) (id : String) (fleet : Fleet) :
    IsAddressed c id .pem (fun localId source => source.pem localId) (fun _ record => record) fleet
      (c.pem id fleet) := by
  refine isAddressed_of_resolve (fun _ hresolve => pem_of_resolve_error hresolve fleet) ?_
  intro vaultId localId name hresolve
  rw [pem_of_resolve hresolve]
  exact Prod.ext (congrFun Except.map_id _).symm rfl

theorem revoke_isAddressed (c : Catalog) (id : String) {token : String}
    (htoken : isAllBlank token = false) (fleet : Fleet) :
    IsAddressed c id (fun localId => .revoke localId token)
      (fun localId source => source.revoke localId token) (fun _ done => done) fleet
      (c.revoke id token fleet) := by
  refine isAddressed_of_resolve
    (fun _ hresolve => revoke_of_resolve_error htoken hresolve fleet) ?_
  intro vaultId localId name hresolve
  rw [revoke_of_resolve htoken hresolve]
  exact Prod.ext (congrFun Except.map_id _).symm rfl

/-! ## One client at most -/

def IsOutOfReach (vaultId : String) : Prop :=
  trim vaultId ≠ vaultId ∨ separator ∈ vaultId.toList

instance (vaultId : String) : Decidable (IsOutOfReach vaultId) :=
  inferInstanceAs (Decidable (_ ∨ _))

theorem parse_ne_of_isOutOfReach {wanted : List String} {clients : Table (Option Nat)}
    {vaultId : String} (hfar : IsOutOfReach vaultId) (id localId : String) :
    parse (ofClients wanted clients).vaultIds id ≠ .ok (vaultId, localId) := by
  intro hparse
  obtain ⟨-, htrimmed, hplain⟩ := isAddressable_iff.mp (isAddressable_of_parse_vaultIds hparse)
  rcases hfar with huntrimmed | hbar
  · exact huntrimmed htrimmed
  · exact hplain hbar

/--
What is asked for by id is asked of one client, the one under the vault id that the id is split
into, once, with the trimmed rest of the id; no other client takes part.  If there is no such vault
id or no such client, no client takes part.  A client is out of reach of all ids if it stands only
under keys with a bar or with blanks around them.
-/
theorem addressed_calls {wanted : List String} {clients : Table (Option Nat)} {c : Catalog}
    (hc : c = ofClients wanted clients) (id : String) (fleet : Fleet) :
    (∀ vaultId localId, parse c.vaultIds id = .ok (vaultId, localId) →
      localId = trim (localPart id) ∧ ¬ IsOutOfReach vaultId) ∧
    IsAddressed c id .details (fun localId source => source.details localId)
      (fun vaultId found => { found with certificate := prefixed vaultId found.certificate }) fleet
      (c.details id fleet) ∧
    IsAddressed c id .pem (fun localId source => source.pem localId) (fun _ record => record) fleet
      (c.pem id fleet) ∧
    (∀ token, isAllBlank token = false →
      IsAddressed c id (fun localId => .revoke localId token)
        (fun localId source => source.revoke localId token) (fun _ done => done) fleet
        (c.revoke id token fleet)) ∧
    ∀ name, (∀ key, c.client? key = some name → IsOutOfReach key) →
      Fleet.LeavesAlone name fleet (c.details id fleet).2 ∧
      Fleet.LeavesAlone name fleet (c.pem id fleet).2 ∧
      ∀ token, Fleet.LeavesAlone name fleet (c.revoke id token fleet).2 := by
  subst hc
  have hdetails := details_isAddressed (ofClients wanted clients) id fleet
  have hpem := pem_isAddressed (ofClients wanted clients) id fleet
  refine ⟨?_, hdetails, hpem, fun token htoken => revoke_isAddressed _ id htoken fleet, ?_⟩
  · intro vaultId localId hparse
    exact ⟨localPart_of_parse hparse, fun hfar => parse_ne_of_isOutOfReach hfar id localId hparse⟩
  · intro name hfar
    have hother : ∀ vaultId localId,
        parse (ofClients wanted clients).vaultIds id = .ok (vaultId, localId) →
          (ofClients wanted clients).client? vaultId ≠ some name :=
      fun vaultId localId hparse hclient =>
        parse_ne_of_isOutOfReach (hfar vaultId hclient) id localId hparse
    refine ⟨hdetails.leavesAlone hother, hpem.leavesAlone hother, fun token => ?_⟩
    -- A blank token is refused before the id is looked at.
    cases htoken : isAllBlank token with
    | true =>
        rw [revoke_of_isAllBlank htoken]
        exact .refl name fleet
    | false => exact (revoke_isAddressed _ id htoken fleet).leavesAlone hother

def tangledCatalog : Catalog :=
  ofClients ["east"] (Table.ofList [("east", some 0), ("west", some 1), ("we|st", some 2)])

def tangledFleet : Fleet :=
  .start [.disabled, .inMemory Fleet.sampleClient (sampleServer [("pki", "01")]), .disabled]
    (.ofRoutes true []) false

theorem addressed_calls_tangled :
    ∃ after, tangledCatalog.revoke " west | pki:01 " "s.write" tangledFleet = (.ok (), after) ∧
      after.log = [(1, .revoke "pki:01" "s.write")] ∧
      Fleet.LeavesAlone 0 tangledFleet after ∧ Fleet.LeavesAlone 2 tangledFleet after := by
  obtain ⟨-, -, -, hrevoke, hfar⟩ :=
    addressed_calls (c := tangledCatalog) rfl " west | pki:01 " tangledFleet
  have hunreached : ∀ entry ∈ tangledCatalog.clients.entries, entry.2 = some 2 →
      IsOutOfReach entry.1 := by decide
  have hlast := (hfar 2 fun key hclient =>
    hunreached (key, some 2) (client?_eq_some_iff.mp hclient) rfl).2.2
  obtain ⟨answer, -, hcall⟩ :=
    (hrevoke "s.write" (by decide)).served "west" "pki:01" 1 (by decide +kernel) (by decide)
  have hdone : (tangledCatalog.revoke " west | pki:01 " "s.write" tangledFleet).1 = .ok () := by
    decide +kernel
  exact ⟨(tangledCatalog.revoke " west | pki:01 " "s.write" tangledFleet).2,
    Prod.ext hdone rfl, hcall.log_eq, hcall.others 0 (by decide), hlast "s.write"⟩

end CertCatalog.Catalog
