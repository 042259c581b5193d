import CertCatalog.Cache.Run
import CertCatalog.Proofs.Cache
import CertCatalog.Proofs.History
import Mathlib.Data.Set.Card

/-!
# What a cache remembers

The state of a cache is a function of the steps that its user has taken.  What is stored under a key
goes back to the last insertion of the key, and it is found until it expires, unless some insertion
has come so late that its entry would have expired after the end of the clock.
-/

namespace CertCatalog

variable {α : Type}

/-! ## Steps -/

namespace CacheStep

def millis : CacheStep α → Nat
  | .sleep millis => millis
  | _ => 0

/-- Insertions and removals of the key; a cleanup is neither. -/
def replaces (key : String) : CacheStep α → Bool
  | .insert other _ => other == key
  | .erase other => other == key
  | .clear => true
  | .get _ | .cleanup | .sleep _ => false

def concerns (key : String) : CacheStep α → Bool
  | .insert other _ => other == key
  | .get other => other == key
  | .erase other => other == key
  | .clear | .cleanup | .sleep _ => true

def looksUp (key : String) : CacheStep α → Bool
  | .get other => other == key
  | _ => false

def isLookup : CacheStep α → Bool
  | .get _ => true
  | _ => false

def isCleanup : CacheStep α → Bool
  | .cleanup => true
  | _ => false

def isInsertion : CacheStep α → Bool
  | .insert _ _ => true
  | _ => false

def elapsed (steps : List (CacheStep α)) : Nat :=
  (steps.map millis).sum

theorem elapsed_concat (steps : List (CacheStep α)) (step : CacheStep α) :
    elapsed (steps ++ [step]) = elapsed steps + step.millis := by
  simp [elapsed]

end CacheStep

open CacheStep

namespace Table

theorem size_eq_ncard (t : Table α) : t.size = {key | ∃ value, t.get? key = some value}.ncard := by
  have hkeys : {key | ∃ value, t.get? key = some value} = ↑t.keys.toFinset := by
    ext key
    simp only [get?_eq_some_iff, Set.mem_ofPred_eq, List.coe_toFinset, keys, List.mem_map]
    constructor
    · rintro ⟨value, hmem⟩
      exact ⟨(key, value), hmem, rfl⟩
    · rintro ⟨⟨_, value⟩, hmem, rfl⟩
      exact ⟨value, hmem⟩
  have hnodup : t.keys.Nodup := t.keys_nodup
  rw [hkeys, Set.ncard_coe_finset, List.toFinset_card_of_nodup hnodup, keys, List.length_map, size]

end Table

namespace ClockedCache

/-! ## One step -/

/-- The step is an insertion of what cannot expire before the clock ends. -/
def IsLate (s : ClockedCache α) (step : CacheStep α) : Prop :=
  step.isInsertion = true ∧ s.clockEnd ≤ s.now + s.cache.ttl

theorem fits_eq_false_iff {s : ClockedCache α} :
    s.cache.fits s.now s.clockEnd = false ↔ s.clockEnd ≤ s.now + s.cache.ttl := by
  simp [TtlCache.fits]

theorem insert_of_poisoned {s : ClockedCache α} (hpoisoned : s.isPoisoned = true) (key : String)
    (value : α) : s.insert key value = (.done, s) :=
  if_pos hpoisoned

theorem insert_of_late {s : ClockedCache α} (hsound : s.isPoisoned = false)
    (hlate : s.clockEnd ≤ s.now + s.cache.ttl) (key : String) (value : α) :
    s.insert key value = (.crashed, { s with cache := s.cache.clear, isPoisoned := true }) := by
  rw [insert, hsound, fits_eq_false_iff.mpr hlate]
  rfl

theorem insert_of_fits {s : ClockedCache α} (hsound : s.isPoisoned = false)
    (hfits : ¬s.clockEnd ≤ s.now + s.cache.ttl) (key : String) (value : α) :
    s.insert key value = (.done, { s with cache := s.cache.insert key value s.now }) := by
  have hfits : s.cache.fits s.now s.clockEnd = true := by
    rw [← Bool.not_eq_false, fits_eq_false_iff]
    exact hfits
  rw [insert, hsound, hfits]
  rfl

/-- The inversion lemma: an insertion does nothing any more, crashes or stores. -/
theorem insert_cases (s : ClockedCache α) (key : String) (value : α) :
    s.isPoisoned = true ∧ s.insert key value = (.done, s) ∨
      (s.isPoisoned = false ∧ s.clockEnd ≤ s.now + s.cache.ttl ∧
        s.insert key value = (.crashed, { s with cache := s.cache.clear, isPoisoned := true })) ∨
      s.isPoisoned = false ∧ ¬s.clockEnd ≤ s.now + s.cache.ttl ∧
        s.insert key value = (.done, { s with cache := s.cache.insert key value s.now }) := by
  by_cases hpoisoned : s.isPoisoned = true
  · exact .inl ⟨hpoisoned, insert_of_poisoned hpoisoned key value⟩
  · have hsound : s.isPoisoned = false := Bool.not_eq_true _ ▸ hpoisoned
    by_cases hlate : s.clockEnd ≤ s.now + s.cache.ttl
    · exact .inr (.inl ⟨hsound, hlate, insert_of_late hsound hlate key value⟩)
    · exact .inr (.inr ⟨hsound, hlate, insert_of_fits hsound hlate key value⟩)

theorem insert_frame (s : ClockedCache α) (key : String) (value : α) :
    (s.insert key value).2.now = s.now ∧ (s.insert key value).2.clockEnd = s.clockEnd ∧
      (s.insert key value).2.cache.ttl = s.cache.ttl := by
  rcases s.insert_cases key value with ⟨-, h⟩ | ⟨-, -, h⟩ | ⟨-, -, h⟩ <;> rw [h] <;>
    exact ⟨rfl, rfl, rfl⟩

theorem insert_crashes (s : ClockedCache α) (key : String) (value : α) :
    ((s.insert key value).1 = .crashed ↔
        s.clockEnd ≤ s.now + s.cache.ttl ∧ s.isPoisoned = false) ∧
      ((s.insert key value).2.isPoisoned = true ↔
        s.clockEnd ≤ s.now + s.cache.ttl ∨ s.isPoisoned = true) := by
  rcases s.insert_cases key value with ⟨hsound, h⟩ | ⟨hsound, hlate, h⟩ | ⟨hsound, hlate, h⟩ <;>
    rw [h] <;> simp [*]

theorem now_step (s : ClockedCache α) (step : CacheStep α) :
    (s.step step).2.now = s.now + step.millis := by
  cases step with
  | insert key value => exact (s.insert_frame key value).1
  | get | erase | clear | cleanup | sleep => rfl

theorem ttl_step (s : ClockedCache α) (step : CacheStep α) :
    (s.step step).2.cache.ttl = s.cache.ttl := by
  cases step with
  | insert key value => exact (s.insert_frame key value).2.2
  | get | erase | clear | cleanup | sleep => rfl

theorem clockEnd_step (s : ClockedCache α) (step : CacheStep α) :
    (s.step step).2.clockEnd = s.clockEnd := by
  cases step with
  | insert key value => exact (s.insert_frame key value).2.1
  | get | erase | clear | cleanup | sleep => rfl

theorem isPoisoned_step (s : ClockedCache α) (step : CacheStep α) :
    (s.step step).2.isPoisoned = true ↔ s.IsLate step ∨ s.isPoisoned = true := by
  cases step with
  | insert key value => simpa [IsLate, isInsertion, ClockedCache.step] using (s.insert_crashes key value).2
  | get | erase | clear | cleanup | sleep => simp [IsLate, isInsertion, ClockedCache.step]

theorem step_crashed_iff (s : ClockedCache α) (step : CacheStep α) :
    (s.step step).1 = .crashed ↔ s.IsLate step ∧ s.isPoisoned = false := by
  cases step with
  | insert key value => simpa [IsLate, isInsertion, ClockedCache.step] using (s.insert_crashes key value).1
  | get | erase | clear | cleanup | sleep => simp [IsLate, isInsertion, ClockedCache.step]

theorem sound_of_step {s : ClockedCache α} {step : CacheStep α}
    (hsound : (s.step step).2.isPoisoned = false) : ¬s.IsLate step ∧ s.isPoisoned = false := by
  rw [← Bool.not_eq_true, isPoisoned_step, not_or, Bool.not_eq_true] at hsound
  exact hsound

theorem step_insert_of_sound {s : ClockedCache α} {key : String} {value : α}
    (hsound : (s.step (.insert key value)).2.isPoisoned = false) :
    s.step (.insert key value) = (.done, { s with cache := s.cache.insert key value s.now }) := by
  obtain ⟨hlate, hbefore⟩ := sound_of_step hsound
  exact insert_of_fits hbefore (fun h => hlate ⟨rfl, h⟩) key value

/-- Nothing can be reached of a cache whose user has crashed. -/
def IsDrained (s : ClockedCache α) : Prop :=
  s.isPoisoned = true → s.cache = .empty s.cache.ttl

theorem IsDrained.step {s : ClockedCache α} (h : s.IsDrained) (step : CacheStep α) :
    (s.step step).2.IsDrained := by
  cases step with
  | insert key value =>
      show (s.insert key value).2.IsDrained
      rcases s.insert_cases key value with ⟨-, heq⟩ | ⟨-, -, heq⟩ | ⟨hsound, -, heq⟩ <;> rw [heq]
      · exact h
      · exact fun _ => rfl
      · intro hpoisoned
        cases hsound.symm.trans hpoisoned
  | get | sleep => exact h
  | erase key => exact fun hpoisoned => congrArg (TtlCache.erase · key) (h hpoisoned)
  | clear => exact fun _ => rfl
  | cleanup => exact fun hpoisoned => congrArg (TtlCache.cleanup · s.now) (h hpoisoned)

/-- The inversion lemma: where an entry comes from that is stored after a step. -/
theorem get?_table_step {s : ClockedCache α} {step : CacheStep α}
    (hsound : (s.step step).2.isPoisoned = false) (key : String) (entry : CacheEntry α) :
    (s.step step).2.cache.table.get? key = some entry ↔
      (step = .insert key entry.value ∧ entry.expiresAt = s.now + s.cache.ttl) ∨
        (step.replaces key = false ∧ (step = .cleanup → s.now < entry.expiresAt)) ∧
          s.cache.table.get? key = some entry := by
  cases step with
  | insert other value =>
      rw [step_insert_of_sound hsound]
      by_cases hkey : other = key
      · subst hkey
        simp only [TtlCache.insert, Table.get?_insert_self, replaces]
        obtain ⟨stored, expiresAt⟩ := entry
        simp [eq_comm]
      · simp [TtlCache.insert, Table.get?_insert_of_ne _ _ (Ne.symm hkey), replaces, hkey]
  | get other => simp [ClockedCache.step, replaces]
  | erase other =>
      by_cases hkey : other = key
      · subst hkey
        simp [ClockedCache.step, TtlCache.erase, Table.get?_erase_self, replaces]
      · simp [ClockedCache.step, TtlCache.erase, Table.get?_erase_of_ne _ (Ne.symm hkey), replaces,
          hkey]
  | clear => simp [ClockedCache.step, TtlCache.clear, TtlCache.empty, replaces]
  | cleanup =>
      simp only [ClockedCache.step, Table.get?_eq_some_iff, TtlCache.mem_entries_cleanup, replaces]
      simp [and_comm]
  | sleep millis => simp [ClockedCache.step, replaces]

theorem get?_step {s : ClockedCache α} {step : CacheStep α}
    (hsound : (s.step step).2.isPoisoned = false) (key : String) (value : α) {time : Nat}
    (hle : s.now ≤ time) :
    (s.step step).2.cache.get? key time = some value ↔
      (step = .insert key value ∧ time < s.now + s.cache.ttl) ∨
        step.replaces key = false ∧ s.cache.get? key time = some value := by
  simp only [TtlCache.get?_eq_some_iff, get?_table_step hsound]
  constructor
  · rintro ⟨entry, ⟨rfl, hexpiry⟩ | ⟨⟨hkept, -⟩, hentry⟩, hfresh, rfl⟩
    · exact .inl ⟨rfl, hexpiry ▸ hfresh⟩
    · exact .inr ⟨hkept, entry, hentry, hfresh, rfl⟩
  · rintro (⟨rfl, hfresh⟩ | ⟨hkept, entry, hentry, hfresh, rfl⟩)
    · exact ⟨⟨value, s.now + s.cache.ttl⟩, .inl ⟨rfl, rfl⟩, hfresh, rfl⟩
    · exact ⟨entry, .inr ⟨⟨hkept, fun _ => Nat.lt_of_le_of_lt hle hfresh⟩, hentry⟩, hfresh, rfl⟩

/-! ## Runs -/

theorem run_concat (s : ClockedCache α) (steps : List (CacheStep α)) (step : CacheStep α) :
    s.run (steps ++ [step]) = ((s.run steps).step step).2 := by
  simp [run]

variable {ttl clockEnd : Nat}

theorem now_run_start (ttl clockEnd : Nat) (steps : List (CacheStep α)) :
    ((start ttl clockEnd).run steps).now = elapsed steps := by
  induction steps using List.reverseRecOn with
  | nil => rfl
  | append_singleton steps step ih => rw [run_concat, now_step, ih, elapsed_concat]

theorem ttl_run_start (ttl clockEnd : Nat) (steps : List (CacheStep α)) :
    ((start ttl clockEnd).run steps).cache.ttl = ttl := by
  induction steps using List.reverseRecOn with
  | nil => rfl
  | append_singleton steps step ih => rw [run_concat, ttl_step, ih]

theorem clockEnd_run_start (ttl clockEnd : Nat) (steps : List (CacheStep α)) :
    ((start ttl clockEnd).run steps).clockEnd = clockEnd := by
  induction steps using List.reverseRecOn with
  | nil => rfl
  | append_singleton steps step ih => rw [run_concat, clockEnd_step, ih]

theorem isLate_run_start_iff {steps : List (CacheStep α)} {step : CacheStep α} :
    ((start ttl clockEnd).run steps).IsLate step ↔
      step.isInsertion = true ∧ clockEnd ≤ elapsed steps + ttl := by
  rw [IsLate, now_run_start, ttl_run_start, clockEnd_run_start]

/-- Some insertion has come so late that its entry would have expired after the end of the clock. -/
def WasLate (ttl clockEnd : Nat) : List (CacheStep α) → Prop :=
  Since (fun _ _ => True) fun before step =>
    step.isInsertion = true ∧ clockEnd ≤ elapsed before + ttl

theorem isPoisoned_run_start_iff (ttl clockEnd : Nat) (steps : List (CacheStep α)) :
    ((start ttl clockEnd).run steps).isPoisoned = true ↔ WasLate ttl clockEnd steps := by
  induction steps using List.reverseRecOn with
  | nil => exact iff_of_false nofun not_since_nil
  | append_singleton steps step ih =>
      rw [run_concat, isPoisoned_step, isLate_run_start_iff, ih, WasLate, since_concat, true_and]

theorem cache_run_start_of_poisoned {steps : List (CacheStep α)}
    (hpoisoned : ((start ttl clockEnd).run steps).isPoisoned = true) :
    ((start ttl clockEnd).run steps).cache = .empty ttl := by
  have hdrained : ((start ttl clockEnd).run steps : ClockedCache α).IsDrained := by
    clear hpoisoned
    induction steps using List.reverseRecOn with
    | nil => exact fun hpoisoned => by cases hpoisoned
    | append_singleton steps step ih =>
        rw [run_concat]
        exact ih.step step
  rw [hdrained hpoisoned, ttl_run_start]

/--
The key was last inserted with this entry, it was not removed since, and no cleanup came after the
entry had expired.
-/
def IsStored (ttl : Nat) (key : String) (entry : CacheEntry α) : List (CacheStep α) → Prop :=
  Since
    (fun before step =>
      step.replaces key = false ∧ (step = .cleanup → elapsed before < entry.expiresAt))
    (fun before step =>
      step = .insert key entry.value ∧ entry.expiresAt = elapsed before + ttl)

theorem get?_table_run_start {steps : List (CacheStep α)}
    (hsound : ((start ttl clockEnd).run steps).isPoisoned = false) (key : String)
    (entry : CacheEntry α) :
    ((start ttl clockEnd).run steps).cache.table.get? key = some entry ↔
      IsStored ttl key entry steps := by
  induction steps using List.reverseRecOn with
  | nil => exact iff_of_false nofun not_since_nil
  | append_singleton steps step ih =>
      rw [run_concat] at hsound ⊢
      rw [get?_table_step hsound, ih (sound_of_step hsound).2, now_run_start, ttl_run_start,
        IsStored, since_concat]

theorem get?_run_start {steps : List (CacheStep α)}
    (hsound : ((start ttl clockEnd).run steps).isPoisoned = false) (key : String) (value : α)
    {time : Nat} (hle : elapsed steps ≤ time) :
    ((start ttl clockEnd).run steps).cache.get? key time = some value ↔
      Since (fun _ step => step.replaces key = false)
        (fun before step => step = .insert key value ∧ time < elapsed before + ttl) steps := by
  induction steps using List.reverseRecOn with
  | nil => exact iff_of_false nofun not_since_nil
  | append_singleton steps step ih =>
      rw [elapsed_concat] at hle
      have hearlier : elapsed steps ≤ time := Nat.le_of_add_right_le hle
      rw [run_concat] at hsound ⊢
      rw [get?_step hsound _ _ (by rwa [now_run_start]), ih (sound_of_step hsound).2 hearlier,
        now_run_start, ttl_run_start, since_concat]

/-! ## Steps that do not matter -/

/-- The same clock, and caches that differ in expired entries only. -/
structure Agrees (s t : ClockedCache α) : Prop where
  now_eq : s.now = t.now
  clockEnd_eq : s.clockEnd = t.clockEnd
  isPoisoned_eq : s.isPoisoned = t.isPoisoned
  cache : s.cache.Agrees s.now t.cache

theorem Agrees.insert {s t : ClockedCache α} (h : Agrees s t) (key : String) (value : α) :
    Agrees (s.insert key value).2 (t.insert key value).2 := by
  have hfits : s.cache.fits s.now s.clockEnd = t.cache.fits t.now t.clockEnd := by
    simp only [TtlCache.fits, h.now_eq, h.clockEnd_eq, h.cache.ttl_eq]
  unfold ClockedCache.insert
  rw [h.isPoisoned_eq, hfits]
  split
  · exact h
  · split
    · refine ⟨h.now_eq, h.clockEnd_eq, rfl, ?_⟩
      rw [← h.now_eq]
      exact h.cache.insert key value
    · exact ⟨h.now_eq, h.clockEnd_eq, rfl, h.cache.clear⟩

theorem agrees_simulates :
    Simulates Agrees (step (α := α)) step (!·.isCleanup) isLookup where
  skip s t step h hcleanup := by
    cases step with
    | cleanup =>
        exact ⟨h.now_eq, h.clockEnd_eq, h.isPoisoned_eq,
          (TtlCache.Agrees.cleanup_left s.cache (Nat.le_refl _)).trans h.cache⟩
    | insert | get | erase | clear | sleep => cases hcleanup
  step s t step h hkept := by
    cases step with
    | insert key value => exact h.insert key value
    | get key => exact h
    | erase key => exact ⟨h.now_eq, h.clockEnd_eq, h.isPoisoned_eq, h.cache.erase key⟩
    | clear => exact ⟨h.now_eq, h.clockEnd_eq, h.isPoisoned_eq, h.cache.clear⟩
    | cleanup => cases hkept
    | sleep millis =>
        exact ⟨congrArg (· + millis) h.now_eq, h.clockEnd_eq, h.isPoisoned_eq,
          h.cache.of_le (Nat.le_add_right _ _)⟩
  kept_of_seen step hseen := by
    cases step with
    | get key => rfl
    | insert | erase | clear | cleanup | sleep => cases hseen
  answer_eq s t step h hseen := by
    cases step with
    | get key =>
        simp only [ClockedCache.step, ← h.now_eq]
        rw [h.cache.get?_eq]
    | insert | erase | clear | cleanup | sleep => cases hseen

/-! ## One key -/

/-- What a step does as long as no insertion is late. -/
def take (s : ClockedCache α) : CacheStep α → CacheAnswer α × ClockedCache α
  | .insert key value => (.done, { s with cache := s.cache.insert key value s.now })
  | step => s.step step

theorem step_eq_take {s : ClockedCache α} {step : CacheStep α}
    (hsound : (s.step step).2.isPoisoned = false) : s.step step = s.take step := by
  cases step with
  | insert key value => exact step_insert_of_sound hsound
  | get | erase | clear | cleanup | sleep => rfl

theorem isPoisoned_run_of_isPoisoned {s : ClockedCache α} (hpoisoned : s.isPoisoned = true)
    (steps : List (CacheStep α)) : (s.run steps).isPoisoned = true := by
  induction steps generalizing s with
  | nil => exact hpoisoned
  | cons step rest ih => exact ih ((isPoisoned_step s step).mpr (.inr hpoisoned))

theorem run_eq_take {s : ClockedCache α} {steps : List (CacheStep α)}
    (hsound : (s.run steps).isPoisoned = false) :
    s.run steps = stateAfter take s steps ∧ traceOf step s steps = traceOf take s steps := by
  induction steps generalizing s with
  | nil => exact ⟨rfl, rfl⟩
  | cons first rest ih =>
      have hnext : (s.step first).2.isPoisoned = false := by
        rw [← Bool.not_eq_true]
        intro hpoisoned
        have hlast := isPoisoned_run_of_isPoisoned hpoisoned rest
        exact Bool.noConfusion (hsound.symm.trans hlast)
      have hfirst := step_eq_take hnext
      obtain ⟨hrun, htrace⟩ := ih hsound
      refine ⟨?_, ?_⟩
      · show (s.step first).2.run rest = stateAfter take (s.take first).2 rest
        rw [← hfirst]
        exact hrun
      · rw [traceOf, traceOf, ← hfirst]
        exact congrArg _ htrace

/-- The same time, and the same stored under one key. -/
structure AgreesAt (key : String) (s t : ClockedCache α) : Prop where
  now_eq : s.now = t.now
  ttl_eq : s.cache.ttl = t.cache.ttl
  get?_eq : s.cache.table.get? key = t.cache.table.get? key

theorem AgreesAt.take {key : String} {s t : ClockedCache α} (h : AgreesAt key s t)
    (step : CacheStep α) : AgreesAt key (s.take step).2 (t.take step).2 := by
  obtain ⟨hnow, httl, hget⟩ := h
  cases step with
  | insert other value =>
      refine ⟨hnow, httl, ?_⟩
      by_cases hkey : other = key
      · subst hkey
        simp only [ClockedCache.take, TtlCache.insert, Table.get?_insert_self, hnow, httl]
      · simp only [ClockedCache.take, TtlCache.insert, Table.get?_insert_of_ne _ _ (Ne.symm hkey),
          hget]
  | get other => exact ⟨hnow, httl, hget⟩
  | erase other =>
      refine ⟨hnow, httl, ?_⟩
      by_cases hkey : other = key
      · subst hkey
        simp only [ClockedCache.take, ClockedCache.step, TtlCache.erase, Table.get?_erase_self]
      · simp only [ClockedCache.take, ClockedCache.step, TtlCache.erase,
          Table.get?_erase_of_ne _ (Ne.symm hkey), hget]
  | clear => exact ⟨hnow, httl, rfl⟩
  | cleanup =>
      refine ⟨hnow, httl, ?_⟩
      simp only [ClockedCache.take, ClockedCache.step, TtlCache.cleanup, Table.get?_filter, hget,
        hnow]
  | sleep millis => exact ⟨congrArg (· + millis) hnow, httl, hget⟩

theorem AgreesAt.take_left {key : String} {s t : ClockedCache α} (h : AgreesAt key s t)
    {step : CacheStep α} (hother : step.concerns key = false) :
    AgreesAt key (s.take step).2 t := by
  cases step with
  | insert other value =>
      have hne : key ≠ other := Ne.symm (by simpa [concerns] using hother)
      exact ⟨h.now_eq, h.ttl_eq, (Table.get?_insert_of_ne _ _ hne).trans h.get?_eq⟩
  | get other => exact h
  | erase other =>
      have hne : key ≠ other := Ne.symm (by simpa [concerns] using hother)
      exact ⟨h.now_eq, h.ttl_eq, (Table.get?_erase_of_ne _ hne).trans h.get?_eq⟩
  | clear | cleanup | sleep => cases hother

theorem agreesAt_simulates (key : String) :
    Simulates (AgreesAt key) (take (α := α)) take (concerns key) (looksUp key) where
  skip _ _ _ h hother := h.take_left hother
  step _ _ step h _ := h.take step
  kept_of_seen step hseen := by
    cases step with
    | get other => exact hseen
    | insert | erase | clear | cleanup | sleep => cases hseen
  answer_eq s t step h hseen := by
    cases step with
    | get other =>
        obtain rfl : other = key := by simpa [looksUp] using hseen
        simp only [ClockedCache.take, ClockedCache.step, TtlCache.get?, h.get?_eq, h.now_eq]
    | insert | erase | clear | cleanup | sleep => cases hseen

theorem elapsed_filter_concerns (key : String) (steps : List (CacheStep α)) :
    elapsed (steps.filter (concerns key)) = elapsed steps := by
  induction steps with
  | nil => rfl
  | cons step rest ih =>
      have hcons : ∀ others : List (CacheStep α),
          elapsed (step :: others) = step.millis + elapsed others := fun _ => List.sum_cons
      cases hconcerns : step.concerns key with
      | true => rw [List.filter_cons_of_pos hconcerns, hcons, hcons, ih]
      | false =>
          have hnone : step.millis = 0 := by
            cases step with
            | sleep => cases hconcerns
            | insert | get | erase | clear | cleanup => rfl
          rw [List.filter_cons_of_neg (by simp [hconcerns]), hcons, hnone, Nat.zero_add, ih]

theorem wasLate_of_filter {key : String} {steps : List (CacheStep α)}
    (hlate : WasLate ttl clockEnd (steps.filter (concerns key))) : WasLate ttl clockEnd steps := by
  induction steps using List.reverseRecOn with
  | nil => exact (not_since_nil hlate).elim
  | append_singleton steps step ih =>
      rw [WasLate, since_concat]
      rw [List.filter_append] at hlate
      cases hconcerns : step.concerns key with
      | true =>
          rw [List.filter_cons_of_pos hconcerns, List.filter_nil, WasLate, since_concat,
            elapsed_filter_concerns] at hlate
          exact hlate.imp id fun h => ⟨trivial, ih h.2⟩
      | false =>
          rw [List.filter_cons_of_neg (by simp [hconcerns]), List.filter_nil,
            List.append_nil] at hlate
          exact .inr ⟨trivial, ih hlate⟩

/-! ## The history of a cache -/

theorem expiredCount_eq (cache : TtlCache α) (now : Nat) :
    cache.expiredCount now = (cache.table.entries.filter (·.2.isExpired now)).length := by
  have hsplit := List.length_eq_length_filter_add (l := cache.table.entries) (·.2.isExpired now)
  simp only [TtlCache.expiredCount, TtlCache.size, Table.size, TtlCache.cleanup, Table.filter]
  omega

/--
All that can be seen of a cache goes back to the steps taken since its start.  An insertion crashes
exactly if it is the first one whose entry would expire after the end of the clock, and from then on
nothing is found, counted or removed.  Up to then a lookup finds the last insertion of its key that
was not undone, until its time is up; the size is the number of keys that are stored, and each key is
as if it were alone.  A cleanup removes what has expired and says how much that was; leaving out
cleanups changes no lookup.
-/
theorem run_start_eq_history (ttl clockEnd : Nat) (steps : List (CacheStep α)) :
    (∀ step, (((start ttl clockEnd).run steps).step step).1 = .crashed ↔
        (step.isInsertion = true ∧ clockEnd ≤ elapsed steps + ttl) ∧
          ¬WasLate ttl clockEnd steps) ∧
      (WasLate ttl clockEnd steps →
        ((start ttl clockEnd).run steps).cache = .empty ttl ∧
        ∀ key value, ((start ttl clockEnd).run steps).step (.insert key value) =
          (.done, (start ttl clockEnd).run steps)) ∧
      (¬WasLate ttl clockEnd steps →
        (∀ key value, (((start ttl clockEnd).run steps).step (.get key)).1 = .lookup (some value) ↔
          Since (fun _ step => step.replaces key = false)
            (fun before step => step = .insert key value ∧ elapsed steps < elapsed before + ttl)
            steps) ∧
        (∀ key entry, (key, entry) ∈ ((start ttl clockEnd).run steps).cache.table.entries ↔
          IsStored ttl key entry steps) ∧
        ((start ttl clockEnd).run steps).cache.size =
          {key | ∃ entry, IsStored ttl key entry steps}.ncard ∧
        ∀ key,
          ((start ttl clockEnd).run steps).cache.table.get? key =
            ((start ttl clockEnd).run (steps.filter (concerns key))).cache.table.get? key ∧
          (traceOf step (start ttl clockEnd) steps).filter (·.1.looksUp key) =
            (traceOf step (start ttl clockEnd) (steps.filter (concerns key))).filter
              (·.1.looksUp key)) ∧
      (∀ pair, pair ∈ (((start ttl clockEnd).run steps).step .cleanup).2.cache.table.entries ↔
        pair ∈ ((start ttl clockEnd).run steps).cache.table.entries ∧
          elapsed steps < pair.2.expiresAt) ∧
      (((start ttl clockEnd).run steps).step .cleanup).1 =
        .removed (((start ttl clockEnd).run steps).cache.table.entries.filter
          (·.2.expiresAt ≤ elapsed steps)).length ∧
      (traceOf step (start ttl clockEnd) steps).filter (·.1.isLookup) =
        (traceOf step (start ttl clockEnd) (steps.filter (!·.isCleanup))).filter
          (·.1.isLookup) := by
  have hnow := now_run_start (α := α) ttl clockEnd steps
  have hpoisoned := isPoisoned_run_start_iff (α := α) ttl clockEnd steps
  refine ⟨fun step => ?_, fun hlate => ⟨?_, fun key value => ?_⟩, fun hnever => ?_, fun pair => ?_,
    ?_, agrees_simulates.traceOf_eq ⟨rfl, rfl, rfl, .refl _ _⟩ steps⟩
  · rw [step_crashed_iff, isLate_run_start_iff, ← hpoisoned, Bool.not_eq_true]
  · exact cache_run_start_of_poisoned (hpoisoned.mpr hlate)
  · exact insert_of_poisoned (hpoisoned.mpr hlate) key value
  · have hsound : ((start ttl clockEnd).run steps).isPoisoned = false := by
      rwa [← hpoisoned, Bool.not_eq_true] at hnever
    refine ⟨fun key value => ?_, fun key entry => ?_, ?_, fun key => ?_⟩
    · rw [← get?_run_start hsound key value (Nat.le_refl _), ← hnow]
      simp only [ClockedCache.step, CacheAnswer.lookup.injEq]
    · rw [← Table.get?_eq_some_iff, get?_table_run_start hsound]
    · simp only [TtlCache.size, Table.size_eq_ncard, get?_table_run_start hsound]
    · -- Both runs are in order, so each is one of steps that are taken.
      have hother : ((start ttl clockEnd).run (steps.filter (concerns key))).isPoisoned = false := by
        rw [← Bool.not_eq_true, isPoisoned_run_start_iff]
        exact fun hlate => hnever (wasLate_of_filter hlate)
      obtain ⟨hrun, htrace⟩ := run_eq_take hsound
      obtain ⟨hrunOther, htraceOther⟩ := run_eq_take hother
      rw [hrun, htrace, hrunOther, htraceOther]
      exact ⟨((agreesAt_simulates key).stateAfter ⟨rfl, rfl, rfl⟩ steps).get?_eq,
        (agreesAt_simulates key).traceOf_eq ⟨rfl, rfl, rfl⟩ steps⟩
  · simp only [ClockedCache.step, TtlCache.mem_entries_cleanup, hnow]
  · simp only [ClockedCache.step, expiredCount_eq, hnow]
    rfl

/-- An entry is gone at the very moment at which its time is up, and it still counts. -/
example :
    let s := (start 5 100 : ClockedCache Nat).run [.insert "a" 1, .sleep 5]
    s.step (.get "a") = (.lookup none, s) ∧ s.cache.size = 1 ∧ (s.step .cleanup).1 = .removed 1 := by
  decide

/-- With the longest lifetime in seconds the first insertion crashes and the second one is lost. -/
theorem insertions_crash_at_longest_lifetime :
    let ttl := (2 ^ 64 - 1) * 1000
    let s : ClockedCache Nat := start ttl TtlCache.longestClock
    (s.step (.insert "a" 1)).1 = .crashed ∧
      ((s.run [.insert "a" 1, .insert "a" 2]).step (.get "a")).1 = .lookup none ∧
      (s.run [.insert "a" 1, .insert "a" 2]).now < 0 + ttl := by
  decide

end ClockedCache
end CertCatalog
