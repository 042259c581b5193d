import CertCatalog.Proofs.Action
import CertCatalog.Proofs.Catalog.Enumeration
import CertCatalog.Proofs.Certificate
import CertCatalog.Proofs.Fleet.Calls

/-!
# Listings of a catalog

A listing asks every vault in turn, whatever the others have answered.  The main statement describes
it by these answers: it fails only if all of them are failures, and then with the last one;
otherwise it holds what the successful vaults have listed, and nothing else.
-/

namespace CertCatalog.Catalog

/-! ## Asking one vault -/

def ask (c : Catalog) (vaultId : String) : Action Fleet (List Certificate) :=
  fun fleet =>
    match c.client? vaultId with
    | some name => Fleet.list name fleet
    | none => (.error (.missingClient vaultId), fleet)

theorem log_ask (c : Catalog) (vaultId : String) (fleet : Fleet) :
    (c.ask vaultId fleet).2.log =
      fleet.log ++ ((c.client? vaultId).map (·, ClientStep.list)).toList := by
  unfold ask
  cases c.client? vaultId with
  | none => exact (List.append_nil fleet.log).symm
  | some name => exact Fleet.log_list name fleet

def shown (vaultId : String) (answer : Outcome (List Certificate)) :
    Outcome (List Certificate) :=
  answer.map (List.map (prefixed vaultId))

theorem listVault_apply (c : Catalog) (vaultId : String) (fleet : Fleet) :
    c.listVault vaultId fleet =
      (shown vaultId (c.ask vaultId fleet).1, (c.ask vaultId fleet).2) := by
  unfold listVault ask
  cases hclient : c.client? vaultId with
  | none =>
      rw [requireClient_eq_error hclient]
      exact Action.bind_of_error rfl
  | some name =>
      rw [requireClient_of_client? hclient]
      refine (Action.bind_of_ok rfl).trans ?_
      dsimp only
      cases hanswer : Fleet.list name fleet with
      | mk outcome after =>
          cases outcome with
          | error e => exact Action.bind_of_error hanswer
          | ok certificates => exact Action.bind_of_ok hanswer

theorem shown_eq_error_iff {vaultId : String} {answer : Outcome (List Certificate)}
    {e : CatalogError} : shown vaultId answer = .error e ↔ answer = .error e := by
  cases answer <;> simp [shown, Except.map]

/-! ## Asking all vaults -/

/-- What the vaults answer one after another, each in the state that those before it have left. -/
def answers (c : Catalog) (fleet : Fleet) : List (String × Outcome (List Certificate)) :=
  c.vaultIds.zip (Action.attemptAll c.ask c.vaultIds fleet).1

theorem vaultIds_answers (c : Catalog) (fleet : Fleet) :
    (c.answers fleet).map Prod.fst = c.vaultIds :=
  List.map_fst_zip (Action.length_attemptAll c.ask c.vaultIds fleet).ge

theorem answers_ne_nil {c : Catalog} (hne : c.vaultIds ≠ []) (fleet : Fleet) :
    c.answers fleet ≠ [] := by
  intro hnil
  have hids := c.vaultIds_answers fleet
  rw [hnil] at hids
  exact hne hids.symm

theorem list_apply (c : Catalog) (fleet : Fleet) :
    c.list fleet =
      if c.vaultIds.isEmpty then (.error .notConfigured, fleet)
      else (joinListings (Action.attemptAll c.listVault c.vaultIds fleet).1,
        (Action.attemptAll c.listVault c.vaultIds fleet).2) := by
  unfold list
  cases c.vaultIds.isEmpty <;> rfl

theorem list_eq_joinListings {c : Catalog} (hne : c.vaultIds ≠ []) (fleet : Fleet) :
    c.list fleet = (joinListings ((c.answers fleet).map fun answer => shown answer.1 answer.2),
      (Action.attemptAll c.ask c.vaultIds fleet).2) := by
  have hids : c.vaultIds.isEmpty = false := by simpa using hne
  rw [list_apply, hids, Action.attemptAll_change shown c.listVault_apply, answers,
    List.map_zip_eq_zipWith]
  rfl

def allShown (answers : List (String × Outcome (List Certificate))) : List Certificate :=
  answers.flatMap fun
    | (vaultId, .ok certificates) =>
        certificates.map fun certificate =>
          { certificate with id := vaultId ++ "|" ++ certificate.id }
    | (_, .error _) => []

theorem gathered_shown (answers : List (String × Outcome (List Certificate))) :
    gathered (answers.map fun answer => shown answer.1 answer.2) = allShown answers := by
  rw [gathered, allShown, List.flatMap_map]
  congr 1
  funext answer
  obtain ⟨vaultId, outcome⟩ := answer
  cases outcome <;> rfl

theorem list_eq_error_iff {c : Catalog} (hne : c.vaultIds ≠ []) (fleet : Fleet)
    {e : CatalogError} :
    (c.list fleet).1 = .error e ↔
      (∀ answer ∈ c.answers fleet, ∃ e, answer.2 = .error e) ∧
        (c.answers fleet).getLast?.map Prod.snd = some (.error e) := by
  have hnonempty : (c.answers fleet).map (fun answer => shown answer.1 answer.2) ≠ [] := by
    simpa using answers_ne_nil hne fleet
  rw [list_eq_joinListings hne, joinListings_eq_error_iff hnonempty]
  simp only [List.forall_mem_map, shown_eq_error_iff, List.getLast?_map, Option.map_eq_some_iff]

theorem exists_error_iff {c : Catalog} (hne : c.vaultIds ≠ []) (fleet : Fleet) :
    (∃ e, (c.list fleet).1 = .error e) ↔
      ∀ answer ∈ c.answers fleet, ∃ e, answer.2 = .error e := by
  constructor
  · rintro ⟨e, herror⟩
    exact ((list_eq_error_iff hne fleet).mp herror).1
  · intro hfailed
    obtain ⟨last, hlast⟩ :=
      Option.isSome_iff_exists.mp (List.getLast?_isSome.mpr (answers_ne_nil hne fleet))
    obtain ⟨e, herror⟩ := hfailed last (List.mem_of_getLast? hlast)
    exact ⟨e, (list_eq_error_iff hne fleet).mpr ⟨hfailed, by rw [hlast, Option.map_some, herror]⟩⟩

theorem eq_sort_of_list {c : Catalog} (hne : c.vaultIds ≠ []) {fleet : Fleet}
    {certificates : List Certificate} (hok : (c.list fleet).1 = .ok certificates) :
    certificates = Certificate.sort (allShown (c.answers fleet)) := by
  rw [list_eq_joinListings hne] at hok
  rw [joinListings_eq_ok hok, gathered_shown]

/--
A listing calls every client that is there once for each of its vaults, in the order of the vaults.
It fails exactly if every vault has failed or has no client, with the failure of the last vault;
otherwise it holds all certificates of the vaults that have succeeded, with the id of the vault put
in front of their own and nothing else changed, and it ascends.
-/
theorem list_passes_over_failures {c : Catalog} (hne : c.vaultIds ≠ []) (fleet : Fleet) :
    (c.list fleet).2.log =
        fleet.log ++ c.vaultIds.filterMap (fun id => (c.client? id).map (·, ClientStep.list)) ∧
      (c.answers fleet).map Prod.fst = c.vaultIds ∧
      ((∃ e, (c.list fleet).1 = .error e) ↔
        ∀ answer ∈ c.answers fleet, ∃ e, answer.2 = .error e) ∧
      (∀ e, (c.list fleet).1 = .error e →
        (c.answers fleet).getLast?.map Prod.snd = some (.error e)) ∧
      ∀ certificates, (c.list fleet).1 = .ok certificates →
        certificates.Perm (allShown (c.answers fleet)) ∧
          certificates.Pairwise Certificate.IsInOrder := by
  refine ⟨?_, c.vaultIds_answers fleet, exists_error_iff hne fleet, ?_, ?_⟩
  · rw [list_eq_joinListings hne, List.filterMap_eq_flatMap_toList]
    exact Action.attemptAll_log Fleet.log _ c.log_ask c.vaultIds fleet
  · intro e herror
    exact ((list_eq_error_iff hne fleet).mp herror).2
  · intro certificates hok
    rw [eq_sort_of_list hne hok]
    exact ⟨Certificate.sort_perm _, Certificate.pairwise_sort _⟩

/-! ## Vaults of all kinds -/

def sampleScript (certificates : List Certificate) (error : Option CatalogError) (delay : Nat) :
    ScriptedClient :=
  { certificates := certificates, details := [], listError := error, connectionError := none,
    delay := delay, cacheSize := 0 }

/-- A vault that fails, one without a client, one that lists nothing and two with one client. -/
def mixedCatalog : Catalog :=
  ofClients ["down", "gone", "void", "west", "east"]
    (Table.ofList [("down", some 0), ("gone", none), ("void", some 1), ("west", some 2),
      ("east", some 2)])

def mixedFleet : Fleet :=
  .start [.scripted (sampleScript [] (some .sealed) 20), .scripted (sampleScript [] none 5),
    .inMemory Fleet.sampleClient (sampleServer [("pki", "0a:1b")])] (.ofRoutes true []) true

theorem answers_mixed : mixedCatalog.answers mixedFleet =
    [("down", .error .sealed), ("gone", .error (.missingClient "gone")), ("void", .ok []),
      ("west", .ok [sampleCertificate "pki:0a:1b"]),
      ("east", .ok [sampleCertificate "pki:0a:1b"])] := by decide +kernel

theorem list_mixed : mixedCatalog.vaultIds ≠ [] ∧
    (mixedCatalog.list mixedFleet).2.log =
        [(0, .list), (1, .list), (2, .list), (2, .list)] ∧
      ∃ certificates, (mixedCatalog.list mixedFleet).1 = .ok certificates ∧
        certificates.Perm
          [sampleCertificate "west|pki:0a:1b", sampleCertificate "east|pki:0a:1b"] := by
  have hne : mixedCatalog.vaultIds ≠ [] := by decide
  obtain ⟨hlog, -, hfailed, -, hlisted⟩ := list_passes_over_failures hne mixedFleet
  have hcalls : mixedFleet.log ++ mixedCatalog.vaultIds.filterMap
      (fun id => (mixedCatalog.client? id).map (·, ClientStep.list)) =
        [(0, .list), (1, .list), (2, .list), (2, .list)] := by decide
  refine ⟨hne, hlog.trans hcalls, ?_⟩
  cases hrun : (mixedCatalog.list mixedFleet).1 with
  | error e =>
      obtain ⟨other, hother⟩ := hfailed.mp ⟨e, hrun⟩ ("void", .ok []) (by simp [answers_mixed])
      contradiction
  | ok certificates =>
      have hperm := (hlisted certificates hrun).1
      rw [answers_mixed] at hperm
      exact ⟨certificates, rfl, hperm⟩

end CertCatalog.Catalog
