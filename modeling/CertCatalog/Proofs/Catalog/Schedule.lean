import CertCatalog.Catalog
import Mathlib.Data.List.Basic

/-!
# Schedules of probes

A listing of all vaults waits for its probes at the same time, and they finish in any order.  Here
the probes of scripted clients take single steps under one clock: one of them is resumed, or a
millisecond passes.  Timers are not late: no time passes while there is a probe to resume.  Whatever
the schedule, it puts the same entry into the place of a vault, and it comes to an end.
-/

namespace CertCatalog

structure Probe where
  vaultId : String
  script? : Option ScriptedClient
  listing? : Option VaultListing
  deriving DecidableEq, Repr

namespace Probe

def start (vaultId : String) (script? : Option ScriptedClient) : Probe :=
  { vaultId := vaultId, script? := script?, listing? := none }

def isPending (p : Probe) : Bool :=
  p.listing?.isNone

def resume? (deadline elapsed : Nat) (p : Probe) : Option VaultListing :=
  match p.script? with
  | none => some (Catalog.failedListing p.vaultId (.missingClient p.vaultId) 0)
  | some script =>
      -- An answer counts even if the deadline has come with it.
      if script.delay ≤ elapsed then
        some (Catalog.listingOf deadline p.vaultId elapsed (some script.list))
      else if deadline ≤ elapsed then
        some (Catalog.listingOf deadline p.vaultId elapsed none)
      else none

def isReady (deadline elapsed : Nat) (p : Probe) : Bool :=
  p.isPending && (p.resume? deadline elapsed).isSome

/-- The entry of a vault, from nothing but its client and the deadline. -/
def entry (deadline : Nat) (vaultId : String) : Option ScriptedClient → VaultListing
  | none => Catalog.failedListing vaultId (.missingClient vaultId) 0
  | some script =>
      Catalog.listingOf deadline vaultId script.delay
        (if deadline < script.delay then none else some script.list)

/-- A pending probe is not overdue, and a finished one has the entry of its vault. -/
def IsOnTime (deadline elapsed : Nat) (p : Probe) : Prop :=
  match p.listing? with
  | some found => found = entry deadline p.vaultId p.script?
  | none => ∀ script, p.script? = some script → elapsed ≤ script.delay ∧ elapsed ≤ deadline

theorem isOnTime_start (deadline : Nat) (vaultId : String) (script? : Option ScriptedClient) :
    (start vaultId script?).IsOnTime deadline 0 :=
  fun script _ => ⟨Nat.zero_le script.delay, Nat.zero_le deadline⟩

theorem IsOnTime.resume?_eq {deadline elapsed : Nat} {p : Probe}
    (h : p.IsOnTime deadline elapsed) (hpending : p.isPending = true) {found : VaultListing}
    (hfound : p.resume? deadline elapsed = some found) :
    found = entry deadline p.vaultId p.script? := by
  have hnone : p.listing? = none := Option.isNone_iff_eq_none.mp hpending
  unfold IsOnTime at h
  rw [hnone] at h
  unfold resume? at hfound
  cases hscript : p.script? with
  | none =>
      rw [hscript] at hfound
      exact (Option.some.inj hfound).symm
  | some script =>
      -- The probe is not overdue, so that whatever it finds has come at this very moment.
      obtain ⟨hdelay, hdeadline⟩ := h script hscript
      rw [hscript] at hfound
      dsimp only at hfound
      split at hfound
      · next hanswered =>
          have heq : script.delay = elapsed := Nat.le_antisymm hanswered hdelay
          have hintime : ¬ deadline < script.delay := by omega
          rw [entry, if_neg hintime, heq]
          exact (Option.some.inj hfound).symm
      · split at hfound
        · next hwaiting hover =>
            have hlate : deadline < script.delay := by omega
            rw [entry, if_pos hlate]
            exact (Option.some.inj hfound).symm
        · contradiction

theorem lt_of_resume?_eq_none {deadline elapsed : Nat} {p : Probe}
    (hnone : p.resume? deadline elapsed = none) {script : ScriptedClient}
    (hscript : p.script? = some script) : elapsed < script.delay ∧ elapsed < deadline := by
  unfold resume? at hnone
  rw [hscript] at hnone
  dsimp only at hnone
  split at hnone
  · contradiction
  · split at hnone
    · contradiction
    · omega

theorem exists_script_of_resume?_eq_none {deadline elapsed : Nat} {p : Probe}
    (hnone : p.resume? deadline elapsed = none) : ∃ script, p.script? = some script := by
  cases hscript : p.script? with
  | none => simp [resume?, hscript] at hnone
  | some script => exact ⟨script, rfl⟩

theorem IsOnTime.tick {deadline elapsed : Nat} {p : Probe} (h : p.IsOnTime deadline elapsed)
    (hwaiting : p.isReady deadline elapsed = false) : p.IsOnTime deadline (elapsed + 1) := by
  unfold IsOnTime at h ⊢
  cases hentry : p.listing? with
  | some found =>
      rw [hentry] at h
      exact h
  | none =>
      intro script hscript
      have hnone : p.resume? deadline elapsed = none := by
        simpa [isReady, isPending, hentry] using hwaiting
      exact lt_of_resume?_eq_none hnone hscript

end Probe

structure FanOut where
  deadline : Nat
  elapsed : Nat
  probes : List Probe
  deriving DecidableEq, Repr

inductive FanOutStep where
  | resume (place : Nat)
  | tick
  deriving DecidableEq, Repr

namespace FanOut

def start (deadline : Nat) (asked : List (String × Option ScriptedClient)) : FanOut :=
  { deadline := deadline, elapsed := 0,
    probes := asked.map fun vault => Probe.start vault.1 vault.2 }

def isReady (f : FanOut) : Bool :=
  f.probes.any (Probe.isReady f.deadline f.elapsed)

def isFinished (f : FanOut) : Bool :=
  f.probes.all (!·.isPending)

def step? (f : FanOut) : FanOutStep → Option FanOut
  | .resume place =>
      match f.probes[place]? with
      | none => none
      | some p =>
          if p.isPending then
            (p.resume? f.deadline f.elapsed).map fun found =>
              { f with probes := f.probes.set place { p with listing? := some found } }
          else none
  | .tick =>
      if f.isFinished || f.isReady then none else some { f with elapsed := f.elapsed + 1 }

def run? (f : FanOut) : List FanOutStep → Option FanOut
  | [] => some f
  | step :: rest => (f.step? step).bind fun next => next.run? rest

def entries (f : FanOut) : List VaultListing :=
  f.probes.filterMap (·.listing?)

theorem step?_resume_eq_some {f next : FanOut} {place : Nat}
    (hstep : f.step? (.resume place) = some next) :
    ∃ p found, f.probes[place]? = some p ∧ p.isPending = true ∧
      p.resume? f.deadline f.elapsed = some found ∧
        next = { f with probes := f.probes.set place { p with listing? := some found } } := by
  unfold step? at hstep
  dsimp only at hstep
  split at hstep
  · contradiction
  · next p hplace =>
      split at hstep
      · next hpending =>
          obtain ⟨found, hfound, hnext⟩ := Option.map_eq_some_iff.mp hstep
          exact ⟨p, found, hplace, hpending, hfound, hnext.symm⟩
      · contradiction

theorem step?_tick_eq_some {f next : FanOut} (hstep : f.step? .tick = some next) :
    f.isFinished = false ∧ f.isReady = false ∧ next = { f with elapsed := f.elapsed + 1 } := by
  unfold step? at hstep
  dsimp only at hstep
  split at hstep
  · contradiction
  · next hwaiting =>
      obtain ⟨hpending, hready⟩ := Bool.or_eq_false_iff.mp (Bool.not_eq_true _ ▸ hwaiting)
      exact ⟨hpending, hready, (Option.some.inj hstep).symm⟩

/-! ## The entries of a schedule -/

structure Serves (f : FanOut) (deadline : Nat) (asked : List (String × Option ScriptedClient)) :
    Prop where
  deadline_eq : f.deadline = deadline
  asked_eq : f.probes.map (fun p => (p.vaultId, p.script?)) = asked
  onTime : ∀ p ∈ f.probes, p.IsOnTime f.deadline f.elapsed

theorem serves_start (deadline : Nat) (asked : List (String × Option ScriptedClient)) :
    (start deadline asked).Serves deadline asked where
  deadline_eq := rfl
  asked_eq := by
    rw [start, List.map_map]
    exact List.map_id asked
  onTime p hp := by
    obtain ⟨vault, -, rfl⟩ := List.mem_map.mp hp
    exact Probe.isOnTime_start deadline vault.1 vault.2

theorem Serves.step {f next : FanOut} {deadline : Nat}
    {asked : List (String × Option ScriptedClient)} (h : f.Serves deadline asked)
    {step : FanOutStep} (hstep : f.step? step = some next) : next.Serves deadline asked := by
  cases step with
  | resume place =>
      obtain ⟨p, found, hplace, hpending, hfound, rfl⟩ := step?_resume_eq_some hstep
      have hmem : p ∈ f.probes := List.mem_of_getElem? hplace
      refine ⟨h.deadline_eq, ?_, ?_⟩
      · -- A new entry changes neither the vault nor its client.
        have hsame : (f.probes.map fun p => (p.vaultId, p.script?))[place]? =
            some (p.vaultId, p.script?) := by
          rw [List.getElem?_map, hplace]
          rfl
        obtain ⟨hlt, hget⟩ := List.getElem?_eq_some_iff.mp hsame
        rw [← h.asked_eq, List.map_set, ← hget]
        exact List.set_getElem_self hlt
      · intro other hother
        rcases List.mem_or_eq_of_mem_set hother with hold | rfl
        · exact h.onTime other hold
        · exact (h.onTime p hmem).resume?_eq hpending hfound
  | tick =>
      obtain ⟨-, hready, rfl⟩ := step?_tick_eq_some hstep
      refine ⟨h.deadline_eq, h.asked_eq, fun p hp => (h.onTime p hp).tick ?_⟩
      simpa using List.any_eq_false.mp hready p hp

theorem Serves.run {f last : FanOut} {deadline : Nat}
    {asked : List (String × Option ScriptedClient)} (h : f.Serves deadline asked)
    {steps : List FanOutStep} (hrun : f.run? steps = some last) : last.Serves deadline asked := by
  induction steps generalizing f with
  | nil => exact Option.some.inj hrun ▸ h
  | cons step rest ih =>
      obtain ⟨next, hstep, hrest⟩ := Option.bind_eq_some_iff.mp hrun
      exact ih (h.step hstep) hrest

theorem Serves.entries_eq {f : FanOut} {deadline : Nat}
    {asked : List (String × Option ScriptedClient)} (h : f.Serves deadline asked)
    (hfinished : f.isFinished = true) :
    f.entries = asked.map fun vault => Probe.entry deadline vault.1 vault.2 := by
  have hentries : ∀ p ∈ f.probes,
      p.listing? = some (Probe.entry deadline p.vaultId p.script?) := by
    intro p hp
    have hdone : p.isPending = false := by simpa using List.all_eq_true.mp hfinished p hp
    have htimely := h.onTime p hp
    unfold Probe.IsOnTime at htimely
    cases hentry : p.listing? with
    | none => simp [Probe.isPending, hentry] at hdone
    | some found =>
        rw [hentry] at htimely
        rw [htimely, h.deadline_eq]
  rw [entries, List.filterMap_eq_map_iff_forall_eq_some.mpr hentries, ← h.asked_eq, List.map_map]
  rfl

/-! ## The end of a schedule -/

/-- More steps than these cannot follow. -/
def work (f : FanOut) : Nat :=
  f.probes.countP Probe.isPending + (f.deadline - f.elapsed)

theorem work_start (deadline : Nat) (asked : List (String × Option ScriptedClient)) :
    (start deadline asked).work = asked.length + deadline := by
  have hall : (start deadline asked).probes.countP Probe.isPending = asked.length := by
    rw [start, List.countP_map]
    exact List.countP_eq_length.mpr fun _ _ => rfl
  rw [work, hall]
  rfl

theorem work_step {f next : FanOut} {step : FanOutStep} (hstep : f.step? step = some next) :
    next.work < f.work := by
  cases step with
  | resume place =>
      obtain ⟨p, found, hplace, hpending, -, rfl⟩ := step?_resume_eq_some hstep
      obtain ⟨hlt, hget⟩ := List.getElem?_eq_some_iff.mp hplace
      have hsome : 0 < f.probes.countP Probe.isPending :=
        List.countP_pos_iff.mpr ⟨p, List.mem_of_getElem? hplace, hpending⟩
      have hcount : (f.probes.set place { p with listing? := some found }).countP Probe.isPending =
          f.probes.countP Probe.isPending - 1 := by
        rw [List.countP_set hlt, hget, hpending]
        simp [Probe.isPending]
      simp only [work, hcount]
      omega
  | tick =>
      obtain ⟨hpending, hready, rfl⟩ := step?_tick_eq_some hstep
      -- Some probe waits and finds nothing, so that the deadline is still ahead.
      obtain ⟨p, hp, hdone⟩ := List.all_eq_false.mp hpending
      have hwaiting : p.isPending = true := by simpa using hdone
      have hnone : p.resume? f.deadline f.elapsed = none := by
        simpa [Probe.isReady, hwaiting] using List.any_eq_false.mp hready p hp
      obtain ⟨script, hscript⟩ := Probe.exists_script_of_resume?_eq_none hnone
      have hbefore := (Probe.lt_of_resume?_eq_none hnone hscript).2
      simp only [work]
      omega

theorem work_run {f last : FanOut} {steps : List FanOutStep} (hrun : f.run? steps = some last) :
    steps.length + last.work ≤ f.work := by
  induction steps generalizing f with
  | nil =>
      obtain rfl := Option.some.inj hrun
      simp
  | cons step rest ih =>
      obtain ⟨next, hstep, hrest⟩ := Option.bind_eq_some_iff.mp hrun
      have hlower := work_step hstep
      have hremaining := ih hrest
      simp only [List.length_cons]
      omega

theorem exists_step {f : FanOut} (hpending : f.isFinished = false) :
    ∃ step next, f.step? step = some next := by
  by_cases hready : f.isReady = true
  · obtain ⟨p, hp, hresumable⟩ := List.any_eq_true.mp hready
    obtain ⟨place, hplace⟩ := List.getElem?_of_mem hp
    obtain ⟨hwaiting, hsome⟩ := Bool.and_eq_true_iff.mp hresumable
    obtain ⟨found, hfound⟩ := Option.isSome_iff_exists.mp hsome
    exact ⟨.resume place, _, by simp only [step?, hplace, hwaiting, if_true, hfound]; rfl⟩
  · have hidle : (f.isFinished || f.isReady) = false := by simp [hpending, hready]
    exact ⟨.tick, _, by simp only [step?, hidle]; rfl⟩

theorem exists_run (f : FanOut) :
    ∃ steps last, f.run? steps = some last ∧ last.isFinished = true := by
  cases hfinished : f.isFinished with
  | true => exact ⟨[], f, rfl, hfinished⟩
  | false =>
      obtain ⟨step, next, hstep⟩ := exists_step hfinished
      have hlower := work_step hstep
      obtain ⟨steps, last, hrun, hlast⟩ := exists_run next
      exact ⟨step :: steps, last, by rw [run?, hstep]; exact hrun, hlast⟩
termination_by f.work

end FanOut
end CertCatalog
