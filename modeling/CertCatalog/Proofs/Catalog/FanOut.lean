import CertCatalog.Proofs.Catalog.Listing
import CertCatalog.Proofs.Catalog.Schedule
import CertCatalog.Proofs.Fleet.Deadlines

/-!
# Listing all vaults at once

A listing of all vaults has one entry for each of them, in their order, and the entry of a vault
with a scripted client is made of this client and the deadline alone.  Schedules of the probes do
not enter into it.
-/

namespace CertCatalog.Catalog

/-! ## One vault -/

theorem vaultId_listingOf (deadline : Nat) (vaultId : String) (elapsed : Nat)
    (answer : Option (Outcome (List Certificate))) :
    (listingOf deadline vaultId elapsed answer).vaultId = vaultId := by
  rcases answer with - | (e | certificates) <;> rfl

theorem probe_of_missing {c : Catalog} {vaultId : String} (hclient : c.client? vaultId = none)
    (deadline : Nat) (fleet : Fleet) :
    c.probe deadline vaultId fleet =
      (failedListing vaultId (.missingClient vaultId) 0, fleet) := by
  simp only [probe, requireClient, hclient]

theorem probe_of_client {c : Catalog} {vaultId : String} {name : Nat}
    (hclient : c.client? vaultId = some name) (deadline : Nat) (fleet : Fleet) :
    c.probe deadline vaultId fleet =
      (listingOf deadline vaultId
          (fleet.timeTaken (Fleet.listWithin deadline name fleet).2 name)
          (Fleet.listWithin deadline name fleet).1,
        (Fleet.listWithin deadline name fleet).2) := by
  simp only [probe, requireClient, hclient]

theorem vaultId_probe (c : Catalog) (deadline : Nat) (vaultId : String) (fleet : Fleet) :
    (c.probe deadline vaultId fleet).1.vaultId = vaultId := by
  cases hclient : c.client? vaultId with
  | none =>
      rw [probe_of_missing hclient]
      rfl
  | some name =>
      rw [probe_of_client hclient]
      exact vaultId_listingOf deadline vaultId _ _

theorem log_probe (c : Catalog) (deadline : Nat) (vaultId : String) (fleet : Fleet) :
    (c.probe deadline vaultId fleet).2.log =
      fleet.log ++ ((c.client? vaultId).map (·, ClientStep.list)).toList := by
  cases hclient : c.client? vaultId with
  | none =>
      rw [probe_of_missing hclient]
      exact (List.append_nil fleet.log).symm
  | some name =>
      rw [probe_of_client hclient]
      exact Fleet.log_listWithin deadline name fleet

theorem probe_of_keepsAnswer {c : Catalog} {fleet : Fleet} {vaultId : String} {name last : Nat}
    {answer : Outcome (List Certificate)} (hclient : c.client? vaultId = some name)
    (hanswer : fleet.KeepsAnswer last name answer) (hle : fleet.clock.wall ≤ last)
    (deadline : Nat) :
    (c.probe deadline vaultId fleet).1 =
      listingOf deadline vaultId (fleet.listDelay name)
        (if deadline < fleet.listDelay name then none else some answer) := by
  have htime : fleet.timeTaken (Fleet.listWithin deadline name fleet).2 name =
      fleet.listDelay name :=
    hanswer.timeTaken_eq hle (Fleet.network_listWithin deadline name fleet)
  rw [probe_of_client hclient, htime, hanswer.listWithin_eq hle]

/-! ## All vaults -/

def probing (c : Catalog) (deadline : Nat) (vaultId : String) : Action Fleet VaultListing :=
  fun fleet => (.ok (c.probe deadline vaultId fleet).1, (c.probe deadline vaultId fleet).2)

theorem attemptAll_probing (c : Catalog) (deadline : Nat) (vaultIds : List String)
    (fleet : Fleet) :
    Action.attemptAll (c.probing deadline) vaultIds fleet =
      ((c.probeAll deadline vaultIds fleet).1.map .ok,
        (c.probeAll deadline vaultIds fleet).2) := by
  induction vaultIds generalizing fleet with
  | nil => rfl
  | cons vaultId rest ih =>
      have hfirst : c.probing deadline vaultId fleet =
          (.ok (c.probe deadline vaultId fleet).1, (c.probe deadline vaultId fleet).2) := rfl
      have hrest := ih (c.probe deadline vaultId fleet).2
      simp only [Action.attemptAll, hfirst, hrest, probeAll, List.map_cons]

/-- The run lemma of a fan-out: what every probe guarantees is so for all entries. -/
theorem listByVault_forall₂ {c : Catalog} {deadline : Nat} (invariant : Fleet → Prop)
    (result : String → VaultListing → Prop)
    (hstep : ∀ vaultId ∈ c.vaultIds, ∀ s, invariant s →
      result vaultId (c.probe deadline vaultId s).1 ∧ invariant (c.probe deadline vaultId s).2)
    {fleet : Fleet} (hfleet : invariant fleet) :
    List.Forall₂ result c.vaultIds (c.listByVault deadline fleet).1 := by
  have hrun := Action.attemptAll_forall₂ invariant
    (fun vaultId outcome => ∀ entry, outcome = .ok entry → result vaultId entry)
    (c.probing deadline) (fun vaultId hvault s hs => by
      obtain ⟨hresult, hnext⟩ := hstep vaultId hvault s hs
      refine ⟨fun entry heq => ?_, hnext⟩
      cases heq
      exact hresult) hfleet
  rw [attemptAll_probing, List.forall₂_map_right_iff] at hrun
  exact hrun.1.imp fun _ _ hentry => hentry _ rfl

theorem map_listByVault {γ : Type} {c : Catalog} {deadline : Nat} (invariant : Fleet → Prop)
    (read : VaultListing → γ) (value : String → γ)
    (hstep : ∀ vaultId ∈ c.vaultIds, ∀ s, invariant s →
      read (c.probe deadline vaultId s).1 = value vaultId ∧
        invariant (c.probe deadline vaultId s).2)
    {fleet : Fleet} (hfleet : invariant fleet) :
    (c.listByVault deadline fleet).1.map read = c.vaultIds.map value := by
  have hentries : List.Forall₂ (fun vaultId entry => value vaultId = read entry) c.vaultIds
      (c.listByVault deadline fleet).1 :=
    listByVault_forall₂ invariant _
      (fun vaultId hvault s hs =>
        ⟨(hstep vaultId hvault s hs).1.symm, (hstep vaultId hvault s hs).2⟩) hfleet
  have hmapped : List.Forall₂ (· = ·) (c.vaultIds.map value)
      ((c.listByVault deadline fleet).1.map read) :=
    List.forall₂_map_left_iff.mpr (List.forall₂_map_right_iff.mpr hentries)
  rw [List.forall₂_eq_eq_eq] at hmapped
  exact hmapped.symm

theorem vaultIds_listByVault (c : Catalog) (deadline : Nat) (fleet : Fleet) :
    (c.listByVault deadline fleet).1.map (·.vaultId) = c.vaultIds := by
  have hids : (c.listByVault deadline fleet).1.map (·.vaultId) = c.vaultIds.map id :=
    map_listByVault (fun _ => True) (·.vaultId) id
      (fun vaultId _ s _ => ⟨c.vaultId_probe deadline vaultId s, trivial⟩) trivial
  rw [hids, List.map_id]

theorem log_listByVault (c : Catalog) (deadline : Nat) (fleet : Fleet) :
    (c.listByVault deadline fleet).2.log =
      fleet.log ++ c.vaultIds.filterMap (fun id => (c.client? id).map (·, ClientStep.list)) := by
  have hstep : ∀ vaultId s, (c.probing deadline vaultId s).2.log =
      s.log ++ ((c.client? vaultId).map (·, ClientStep.list)).toList := c.log_probe deadline
  have hrun := Action.attemptAll_log Fleet.log _ hstep c.vaultIds fleet
  rw [attemptAll_probing, ← List.filterMap_eq_flatMap_toList] at hrun
  exact hrun

/-! ## Scripted vaults -/

/-- The vault has no client, or its client is this script. -/
def IsServedBy (c : Catalog) (fleet : Fleet) (vaultId : String) : Option ScriptedClient → Prop
  | none => c.client? vaultId = none
  | some script => ∃ name, c.client? vaultId = some name ∧
      fleet.clients[name]? = some (.scripted script)

/-- The step lemma: a probe gives the entry of its vault as long as all scripts are in place. -/
theorem probe_of_isServedBy {c : Catalog} {fleet s : Fleet} {vaultId : String}
    {script? : Option ScriptedClient} (hkept : fleet.KeepsScripts s)
    (hserved : c.IsServedBy fleet vaultId script?) (deadline : Nat) :
    (c.probe deadline vaultId s).1 = Probe.entry deadline vaultId script? := by
  cases script? with
  | none =>
      rw [probe_of_missing hserved]
      rfl
  | some script =>
      obtain ⟨name, hclient, hscript⟩ := hserved
      have hnow := hkept name script hscript
      have hanswer := Fleet.keepsAnswer_scripted hnow s.clock.wall
      rw [probe_of_keepsAnswer hclient hanswer (Nat.le_refl _), Fleet.listDelay_scripted hnow]
      rfl

theorem keepsScripts_probe (c : Catalog) (deadline : Nat) (vaultId : String) (fleet : Fleet) :
    fleet.KeepsScripts (c.probe deadline vaultId fleet).2 := by
  cases hclient : c.client? vaultId with
  | none =>
      rw [probe_of_missing hclient]
      exact .refl fleet
  | some name =>
      rw [probe_of_client hclient]
      exact Fleet.keepsScripts_listWithin deadline name fleet

theorem listByVault_scripted (c : Catalog) (deadline : Nat) (fleet : Fleet) :
    List.Forall₂ (fun vaultId entry => entry.vaultId = vaultId ∧
      ∀ script?, c.IsServedBy fleet vaultId script? →
        entry = Probe.entry deadline vaultId script?)
      c.vaultIds (c.listByVault deadline fleet).1 :=
  listByVault_forall₂ fleet.KeepsScripts _
    (fun vaultId _ s hkept =>
      ⟨⟨c.vaultId_probe deadline vaultId s,
          fun _ hserved => probe_of_isServedBy hkept hserved deadline⟩,
        hkept.trans (c.keepsScripts_probe deadline vaultId s)⟩) (.refl fleet)

theorem eq_entry_of_mem {c : Catalog} {deadline : Nat} {fleet : Fleet} {entry : VaultListing}
    (hentry : entry ∈ (c.listByVault deadline fleet).1) {script? : Option ScriptedClient}
    (hserved : c.IsServedBy fleet entry.vaultId script?) :
    entry = Probe.entry deadline entry.vaultId script? := by
  obtain ⟨vaultId, -, rfl, hscripted⟩ :=
    Action.exists_item_of_mem (c.listByVault_scripted deadline fleet) hentry
  exact hscripted script? hserved

theorem listByVault_eq_map {c : Catalog} {fleet : Fleet}
    {asked : List (String × Option ScriptedClient)} (hids : asked.map Prod.fst = c.vaultIds)
    (hserved : ∀ vault ∈ asked, c.IsServedBy fleet vault.1 vault.2) (deadline : Nat) :
    (c.listByVault deadline fleet).1 =
      asked.map fun vault => Probe.entry deadline vault.1 vault.2 := by
  have hentries := c.listByVault_scripted deadline fleet
  rw [← hids, List.forall₂_map_left_iff] at hentries
  have heach : List.Forall₂ (fun vault entry => Probe.entry deadline vault.1 vault.2 = entry)
      asked (c.listByVault deadline fleet).1 :=
    ((List.forall₂_and_left _ _).mpr ⟨hserved, hentries⟩).imp
      fun vault entry h => (h.2.2 vault.2 h.1).symm
  rw [← List.forall₂_map_left_iff, List.forall₂_eq_eq_eq] at heach
  exact heach.symm

/-! ## What the entries say -/

structure Reports (deadline : Nat) (script? : Option ScriptedClient) (entry : VaultListing) :
    Prop where
  missing : script? = none →
    entry.error = some (.missingClient entry.vaultId) ∧ entry.certificates = []
  late : ∀ script, script? = some script → deadline < script.delay →
    entry.error = some (.timeout entry.vaultId deadline) ∧ entry.certificates = []
  failed : ∀ script, script? = some script → script.delay < deadline →
    ∀ e, script.list = .error e → entry.error = some e ∧ entry.certificates = []
  listed : ∀ script, script? = some script → script.delay < deadline →
    ∀ certificates, script.list = .ok certificates →
      entry.error = none ∧ entry.certificates = certificates.map fun certificate =>
        { certificate with id := entry.vaultId ++ "|" ++ certificate.id }

theorem reports_entry (deadline : Nat) (vaultId : String) (script? : Option ScriptedClient) :
    Reports deadline script? (Probe.entry deadline vaultId script?) where
  missing hnone := by
    subst hnone
    exact ⟨rfl, rfl⟩
  late script hscript hlate := by
    subst hscript
    rw [Probe.entry, if_pos hlate]
    exact ⟨rfl, rfl⟩
  failed script hscript hintime e herror := by
    subst hscript
    rw [Probe.entry, if_neg (Nat.not_lt_of_gt hintime), herror]
    exact ⟨rfl, rfl⟩
  listed script hscript hintime certificates hok := by
    subst hscript
    rw [Probe.entry, if_neg (Nat.not_lt_of_gt hintime), hok]
    exact ⟨rfl, rfl⟩

/--
A listing at once of vaults that are served by scripts or by nobody.  It has one entry for each
vault in their order, and it calls every client that is there once for each of its vaults.  Every
schedule of the probes ends after a bounded number of steps and leaves these entries.  An entry
reports the client of its own vault, and another catalog over other clients, in which this one vault
is served by the same script, has the same entry for it.
-/
theorem listByVault_of_served {c : Catalog} {fleet : Fleet}
    {asked : List (String × Option ScriptedClient)} (hids : asked.map Prod.fst = c.vaultIds)
    (hserved : ∀ vault ∈ asked, c.IsServedBy fleet vault.1 vault.2) (deadline : Nat) :
    (c.listByVault deadline fleet).1.map (·.vaultId) = c.vaultIds ∧
      (c.listByVault deadline fleet).2.log =
        fleet.log ++ c.vaultIds.filterMap (fun id => (c.client? id).map (·, ClientStep.list)) ∧
      (∀ steps state, (FanOut.start deadline asked).run? steps = some state →
        steps.length ≤ asked.length + deadline ∧
          (state.isFinished = true → state.entries = (c.listByVault deadline fleet).1) ∧
          ∃ more last, state.run? more = some last ∧ last.isFinished = true) ∧
      ∀ entry ∈ (c.listByVault deadline fleet).1, ∀ script?,
        c.IsServedBy fleet entry.vaultId script? →
          Reports deadline script? entry ∧
            ∀ (d : Catalog) (other : Fleet), ∀ changed ∈ (d.listByVault deadline other).1,
              changed.vaultId = entry.vaultId → d.IsServedBy other entry.vaultId script? →
                changed = entry := by
  refine ⟨c.vaultIds_listByVault deadline fleet, c.log_listByVault deadline fleet, ?_, ?_⟩
  · intro steps state hrun
    have hlength := FanOut.work_run hrun
    rw [FanOut.work_start] at hlength
    refine ⟨Nat.le_of_add_right_le hlength, fun hfinished => ?_, state.exists_run⟩
    rw [((FanOut.serves_start deadline asked).run hrun).entries_eq hfinished,
      listByVault_eq_map hids hserved]
  · intro entry hentry script? hvault
    have hown := eq_entry_of_mem hentry hvault
    refine ⟨?_, fun d other changed hchanged hsame hother => ?_⟩
    · rw [hown]
      exact reports_entry deadline entry.vaultId script?
    · rw [← hsame] at hother
      rw [eq_entry_of_mem hchanged hother, hsame]
      exact hown.symm

/-- One that is too slow, one without a client, one that fails at once and one in time. -/
def servedVaults : List (String × Option ScriptedClient) :=
  [("slow", some (sampleScript [] none 30)), ("gone", none),
    ("down", some (sampleScript [] (some .sealed) 0)),
    ("quick", some (sampleScript [sampleCertificate "pki:0a"] none 2))]

def servedCatalog : Catalog :=
  ofClients ["slow", "gone", "down", "quick"]
    (Table.ofList [("slow", some 0), ("gone", none), ("down", some 1), ("quick", some 2)])

def servedFleet : Fleet :=
  .start ((servedVaults.filterMap (·.2)).map .scripted) (.ofRoutes true []) true

def servedSteps : List FanOutStep :=
  [.resume 2, .resume 1, .tick, .tick, .resume 3, .tick, .resume 0]

theorem listByVault_served :
    ∃ last, (FanOut.start 3 servedVaults).run? servedSteps = some last ∧
      last.entries = (servedCatalog.listByVault 3 servedFleet).1 ∧
      last.entries.map (fun entry => (entry.vaultId, entry.error)) =
        [("slow", some (.timeout "slow" 3)), ("gone", some (.missingClient "gone")),
          ("down", some .sealed), ("quick", none)] := by
  have hmissing : servedCatalog.client? "gone" = none := by decide
  have hserved : ∀ vault ∈ servedVaults,
      servedCatalog.IsServedBy servedFleet vault.1 vault.2 := by
    simp only [servedVaults, List.forall_mem_cons]
    exact ⟨⟨0, by decide, rfl⟩, hmissing, ⟨1, by decide, rfl⟩, ⟨2, by decide, rfl⟩, by simp⟩
  obtain ⟨-, -, hschedules, -⟩ := listByVault_of_served (by decide) hserved 3
  obtain ⟨last, hrun⟩ : ∃ last, (FanOut.start 3 servedVaults).run? servedSteps = some last :=
    ⟨_, rfl⟩
  have hlast := Option.some.inj hrun
  obtain ⟨-, hentries, -⟩ := hschedules servedSteps last hrun
  refine ⟨last, hrun, hentries ?_, ?_⟩ <;> rw [← hlast] <;> decide

end CertCatalog.Catalog
