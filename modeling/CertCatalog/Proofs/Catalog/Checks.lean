import CertCatalog.Proofs.Catalog.Enumeration
import CertCatalog.Proofs.Fleet.Calls

/-!
# Checks of a catalog

A check goes through the vaults in their order and stops at the first one that has no client or
whose client fails.  It is described by the checks of single vaults, made for all vaults one after
another.
-/

namespace CertCatalog.Catalog

variable {c : Catalog} {vaultId : String} {name : Nat} {fleet next after : Fleet} {e : CatalogError}
  {vaultIds passed rest : List String}

/-! ## One vault -/

def ownCheck (c : Catalog) (vaultId : String) : Action Fleet Unit :=
  fun fleet =>
    match c.client? vaultId with
    | some name => Fleet.check name fleet
    | none => (.error (.missingClient vaultId), fleet)

theorem ownCheck_of_missing (hnone : c.client? vaultId = none) (fleet : Fleet) :
    c.ownCheck vaultId fleet = (.error (.missingClient vaultId), fleet) := by
  simp only [ownCheck, hnone]

theorem ownCheck_of_client? (hclient : c.client? vaultId = some name) (fleet : Fleet) :
    c.ownCheck vaultId fleet = Fleet.check name fleet := by
  simp only [ownCheck, hclient]

theorem log_ownCheck (c : Catalog) (vaultId : String) (fleet : Fleet) :
    (c.ownCheck vaultId fleet).2.log =
      fleet.log ++ ((c.client? vaultId).map (·, ClientStep.check)).toList := by
  cases hclient : c.client? vaultId with
  | none =>
      rw [ownCheck_of_missing hclient]
      exact (List.append_nil fleet.log).symm
  | some name =>
      rw [ownCheck_of_client? hclient]
      exact Fleet.log_call name .check (fun source => source.check) fleet

theorem checkFrom_cons (c : Catalog) (vaultId : String) (rest : List String) (fleet : Fleet) :
    c.checkFrom (vaultId :: rest) fleet =
      (c.ownCheck vaultId >>= fun _ => c.checkFrom rest) fleet := by
  simp only [checkFrom]
  cases hclient : c.client? vaultId with
  | none =>
      rw [requireClient_eq_error hclient, Action.bind_of_error (ownCheck_of_missing hclient fleet)]
      exact Action.bind_of_error rfl
  | some name =>
      rw [requireClient_of_client? hclient, Action.bind_apply (c.ownCheck vaultId),
        ownCheck_of_client? hclient]
      exact Action.bind_of_ok rfl

/-! ## Vaults that pass -/

/-- Each of the vaults has a client whose own check succeeds when its turn comes. -/
def PassesAll (c : Catalog) (vaultIds : List String) (fleet after : Fleet) : Prop :=
  Action.attemptAll c.ownCheck vaultIds fleet = (vaultIds.map fun _ => .ok (), after)

theorem passesAll_cons_iff :
    c.PassesAll (vaultId :: rest) fleet after ↔
      ∃ next, c.ownCheck vaultId fleet = (.ok (), next) ∧ c.PassesAll rest next after := by
  unfold PassesAll
  cases hown : c.ownCheck vaultId fleet with
  | mk outcome next =>
      simp only [Action.attemptAll, hown, List.map_cons, Prod.mk.injEq, List.cons.injEq]
      constructor
      · rintro ⟨⟨houtcome, houtcomes⟩, hlast⟩
        exact ⟨next, ⟨houtcome, rfl⟩, Prod.ext houtcomes hlast⟩
      · rintro ⟨found, ⟨houtcome, rfl⟩, hrest⟩
        exact ⟨⟨houtcome, congrArg Prod.fst hrest⟩, congrArg Prod.snd hrest⟩

theorem checkFrom_of_passesAll (h : c.PassesAll passed fleet next) (vaultIds : List String) :
    c.checkFrom (passed ++ vaultIds) fleet = c.checkFrom vaultIds next := by
  induction passed generalizing fleet with
  | nil =>
      obtain rfl : fleet = next := congrArg Prod.snd h
      rfl
  | cons vaultId rest ih =>
      obtain ⟨after, hown, hrest⟩ := passesAll_cons_iff.mp h
      rw [List.cons_append, checkFrom_cons, Action.bind_of_ok hown, ih hrest]

theorem client?_of_passesAll (h : c.PassesAll vaultIds fleet after) :
    ∀ id ∈ vaultIds, (c.client? id).isSome = true := by
  induction vaultIds generalizing fleet with
  | nil => exact nofun
  | cons vaultId rest ih =>
      obtain ⟨next, hown, hrest⟩ := passesAll_cons_iff.mp h
      refine List.forall_mem_cons.mpr ⟨?_, ih hrest⟩
      cases hclient : c.client? vaultId with
      | none => cases hown.symm.trans (ownCheck_of_missing hclient fleet)
      | some name => rfl

/-- The calls that checking these vaults makes: one for each that has a client. -/
def checkCalls (c : Catalog) (vaultIds : List String) : List (Nat × ClientStep) :=
  vaultIds.filterMap fun id => (c.client? id).map (·, ClientStep.check)

theorem log_of_passesAll (h : c.PassesAll vaultIds fleet after) :
    after.log = fleet.log ++ c.checkCalls vaultIds := by
  have hlog := Action.attemptAll_log Fleet.log _ c.log_ownCheck vaultIds fleet
  rwa [h, ← List.filterMap_eq_flatMap_toList] at hlog

/-! ## The vault that fails -/

/-- All vaults before this one pass, and its own check is the first that fails. -/
def StopsAt (c : Catalog) (passed : List String) (vaultId : String) (fleet : Fleet)
    (e : CatalogError) (after : Fleet) : Prop :=
  ∃ next, c.PassesAll passed fleet next ∧ c.ownCheck vaultId next = (.error e, after)

theorem checkFrom_of_stopsAt (h : c.StopsAt passed vaultId fleet e after) (rest : List String) :
    c.checkFrom (passed ++ vaultId :: rest) fleet = (.error e, after) := by
  obtain ⟨next, hpassed, hown⟩ := h
  rw [checkFrom_of_passesAll hpassed, checkFrom_cons]
  exact Action.bind_of_error hown

theorem log_of_stopsAt (h : c.StopsAt passed vaultId fleet e after) :
    after.log = fleet.log ++ c.checkCalls (passed ++ [vaultId]) := by
  obtain ⟨next, hpassed, hown⟩ := h
  have hlog := c.log_ownCheck vaultId next
  rw [hown, log_of_passesAll hpassed] at hlog
  cases hclient : c.client? vaultId <;> simpa [checkCalls, hclient] using hlog

/-! ## All vaults -/

theorem passesAll_or_stopsAt (c : Catalog) (vaultIds : List String) (fleet : Fleet) :
    (∃ after, c.PassesAll vaultIds fleet after) ∨
      ∃ passed vaultId rest e after, vaultIds = passed ++ vaultId :: rest ∧
        c.StopsAt passed vaultId fleet e after := by
  induction vaultIds generalizing fleet with
  | nil => exact .inl ⟨fleet, rfl⟩
  | cons vaultId rest ih =>
      cases hown : c.ownCheck vaultId fleet with
      | mk outcome next =>
          cases outcome with
          | error e => exact .inr ⟨[], vaultId, rest, e, next, rfl, fleet, rfl, hown⟩
          | ok _ =>
              rcases ih next with ⟨after, hrest⟩ | ⟨passed, failing, others, e, after, rfl, hstops⟩
              · exact .inl ⟨after, passesAll_cons_iff.mpr ⟨next, hown, hrest⟩⟩
              · obtain ⟨last, hpassed, hfails⟩ := hstops
                exact .inr ⟨vaultId :: passed, failing, others, e, after, rfl, last,
                  passesAll_cons_iff.mpr ⟨next, hown, hpassed⟩, hfails⟩

theorem checkFrom_eq_ok_iff :
    c.checkFrom vaultIds fleet = (.ok (), after) ↔ c.PassesAll vaultIds fleet after := by
  have hpasses : ∀ {last}, c.PassesAll vaultIds fleet last →
      c.checkFrom vaultIds fleet = (.ok (), last) := by
    intro last h
    have hrun := checkFrom_of_passesAll h []
    rwa [List.append_nil] at hrun
  refine ⟨fun hok => ?_, hpasses⟩
  rcases c.passesAll_or_stopsAt vaultIds fleet with ⟨last, h⟩ | ⟨_, _, rest, _, _, rfl, h⟩
  · cases hok.symm.trans (hpasses h)
    exact h
  · cases hok.symm.trans (checkFrom_of_stopsAt h rest)

theorem checkFrom_eq_error_iff :
    c.checkFrom vaultIds fleet = (.error e, after) ↔
      ∃ passed vaultId rest, vaultIds = passed ++ vaultId :: rest ∧
        c.StopsAt passed vaultId fleet e after := by
  constructor
  · intro herror
    rcases c.passesAll_or_stopsAt vaultIds fleet with
      ⟨last, h⟩ | ⟨passed, vaultId, rest, failure, last, rfl, h⟩
    · cases herror.symm.trans (checkFrom_eq_ok_iff.mpr h)
    · cases herror.symm.trans (checkFrom_of_stopsAt h rest)
      exact ⟨passed, vaultId, rest, rfl, h⟩
  · rintro ⟨passed, vaultId, rest, rfl, h⟩
    exact checkFrom_of_stopsAt h rest

theorem log_checkFrom (hok : (c.checkFrom vaultIds fleet).1 = .ok ()) :
    (∀ id ∈ vaultIds, (c.client? id).isSome = true) ∧
      (c.checkFrom vaultIds fleet).2.log =
        fleet.log ++ vaultIds.filterMap fun id => (c.client? id).map (·, ClientStep.check) := by
  have hpasses : c.PassesAll vaultIds fleet (c.checkFrom vaultIds fleet).2 :=
    checkFrom_eq_ok_iff.mp (Prod.ext hok rfl)
  exact ⟨client?_of_passesAll hpasses, log_of_passesAll hpasses⟩

theorem check_of_nil (hnil : c.vaultIds = []) (fleet : Fleet) :
    c.check fleet = (.error .notConfigured, fleet) := by
  rw [check, hnil]
  rfl

theorem check_of_ne_nil (hne : c.vaultIds ≠ []) (fleet : Fleet) :
    c.check fleet = c.checkFrom c.vaultIds fleet := by
  have hsome : c.vaultIds.isEmpty = false := by simpa using hne
  rw [check, hsome]
  rfl

theorem keeps_check {P : Fleet → Prop} (h : ∀ name, Action.Keeps P (Fleet.check name))
    (c : Catalog) : Action.Keeps P c.check := by
  have hfrom : ∀ vaultIds, Action.Keeps P (c.checkFrom vaultIds) := by
    intro vaultIds
    induction vaultIds with
    | nil => exact .answer _ _
    | cons vaultId rest ih =>
        exact (Action.Keeps.answer _ _).bind fun name => (h name).bind fun _ => ih
  unfold check
  split
  · exact .answer _ _
  · exact hfrom c.vaultIds

end CertCatalog.Catalog
