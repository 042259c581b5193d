import CertCatalog.Action
import Mathlib.Data.List.Forall2

/-!
# Runs over several items

What every single run of an action guarantees, a run over a list of items guarantees for all of
them.
-/

namespace CertCatalog

theorem exists_of_bind_eq_ok {ε α β : Type} {first : Except ε α} {second : α → Except ε β}
    {value : β} (hok : first >>= second = .ok value) :
    ∃ found, first = .ok found ∧ second found = .ok value := by
  cases first with
  | error e => cases hok
  | ok found => exact ⟨found, rfl, hok⟩

namespace Action

variable {σ α β : Type}

theorem exists_of_bind_ok {first : Action σ α} {second : α → Action σ β} {s : σ} {value : β}
    (hok : ((first >>= second) s).1 = .ok value) :
    ∃ found next, first s = (.ok found, next) ∧ (second found next).1 = .ok value := by
  rw [bind_apply] at hok
  cases hrun : first s with
  | mk outcome next =>
      rw [hrun] at hok
      cases outcome with
      | ok found => exact ⟨found, next, rfl, hok⟩
      | error e => contradiction

theorem bind_answer_apply (action : Action σ α) (read : α → Outcome β) (s : σ) :
    (action >>= fun value => answer (read value)) s = ((action s).1.bind read, (action s).2) := by
  rw [bind_apply]
  cases action s with
  | mk outcome after => cases outcome <;> rfl

theorem bind_pure_apply (action : Action σ α) (change : α → β) (s : σ) :
    (action >>= fun value => pure (change value)) s =
      ((action s).1.map change, (action s).2) := by
  rw [bind_apply]
  cases action s with
  | mk outcome next => cases outcome <;> rfl

/--
The run lemma of `attemptAll`.  The step hypothesis is an invariant of the state together with what
it yields for the outcome of one item; the order of outcomes is the order of items.
-/
theorem attemptAll_forall₂ (invariant : σ → Prop) (result : β → Outcome α → Prop)
    (action : β → Action σ α) {items : List β}
    (hstep : ∀ item ∈ items, ∀ s, invariant s →
      result item (action item s).1 ∧ invariant (action item s).2)
    {s : σ} (hs : invariant s) :
    List.Forall₂ result items (attemptAll action items s).1 ∧
      invariant (attemptAll action items s).2 := by
  induction items generalizing s with
  | nil => exact ⟨.nil, hs⟩
  | cons item rest ih =>
      obtain ⟨houtcome, hnext⟩ := hstep item (by simp) s hs
      obtain ⟨houtcomes, hlast⟩ := ih (fun other hother => hstep other (by simp [hother])) hnext
      exact ⟨.cons houtcome houtcomes, hlast⟩

theorem exists_item_of_mem {γ : Type} {result : β → γ → Prop} {items : List β}
    {outcomes : List γ} (houtcomes : List.Forall₂ result items outcomes)
    {outcome : γ} (hmem : outcome ∈ outcomes) : ∃ item ∈ items, result item outcome := by
  induction houtcomes with
  | nil => simp at hmem
  | @cons item first items outcomes hfirst _ ih =>
      rcases List.mem_cons.mp hmem with rfl | hrest
      · exact ⟨item, by simp, hfirst⟩
      · obtain ⟨other, hother, hresult⟩ := ih hrest
        exact ⟨other, by simp [hother], hresult⟩

theorem attemptAll_eq_map (invariant : σ → Prop) (value : β → Outcome α)
    (action : β → Action σ α) {items : List β}
    (hstep : ∀ item ∈ items, ∀ s, invariant s →
      (action item s).1 = value item ∧ invariant (action item s).2)
    {s : σ} (hs : invariant s) :
    (attemptAll action items s).1 = items.map value ∧
      invariant (attemptAll action items s).2 := by
  obtain ⟨houtcomes, hlast⟩ := attemptAll_forall₂ invariant
    (fun item outcome => value item = outcome) action
    (fun item hitem s hs => ⟨(hstep item hitem s hs).1.symm, (hstep item hitem s hs).2⟩) hs
  rw [← List.forall₂_map_left_iff, List.forall₂_eq_eq_eq] at houtcomes
  exact ⟨houtcomes.symm, hlast⟩

theorem attemptAll_change {γ : Type} (change : β → Outcome α → Outcome γ)
    {first : β → Action σ α} {second : β → Action σ γ}
    (hstep : ∀ item s, second item s = (change item (first item s).1, (first item s).2))
    (items : List β) (s : σ) :
    attemptAll second items s =
      (List.zipWith change items (attemptAll first items s).1, (attemptAll first items s).2) := by
  induction items generalizing s with
  | nil => rfl
  | cons item rest ih =>
      have hrest := ih (first item s).2
      simp only [attemptAll, hstep, hrest, List.zipWith_cons_cons]

theorem length_attemptAll (action : β → Action σ α) (items : List β) (s : σ) :
    (attemptAll action items s).1.length = items.length := by
  induction items generalizing s with
  | nil => rfl
  | cons item rest ih => simpa [attemptAll] using ih (action item s).2

theorem attemptAll_mono (time : σ → Nat) {action : β → Action σ α}
    (hstep : ∀ item s, time s ≤ time (action item s).2) (items : List β) (s : σ) :
    time s ≤ time (attemptAll action items s).2 := by
  induction items generalizing s with
  | nil => exact Nat.le_refl _
  | cons item rest ih => exact Nat.le_trans (hstep item s) (ih (action item s).2)

theorem attemptAll_log {τ : Type} (log : σ → List τ) (entries : β → List τ)
    {action : β → Action σ α} (hstep : ∀ item s, log (action item s).2 = log s ++ entries item)
    (items : List β) (s : σ) :
    log (attemptAll action items s).2 = log s ++ items.flatMap entries := by
  induction items generalizing s with
  | nil => simp
  | cons item rest ih =>
      have hrest := ih (action item s).2
      rw [hstep item s, List.append_assoc] at hrest
      exact hrest

/-! ## Invariants -/

def Keeps (invariant : σ → Prop) (action : Action σ α) : Prop :=
  ∀ s, invariant s → invariant (action s).2

theorem Keeps.answer (invariant : σ → Prop) (outcome : Outcome α) :
    Keeps invariant (answer outcome) :=
  fun _ hs => hs

theorem Keeps.bind {invariant : σ → Prop} {first : Action σ α} {second : α → Action σ β}
    (hfirst : Keeps invariant first) (hsecond : ∀ value, Keeps invariant (second value)) :
    Keeps invariant (first >>= second) := by
  intro s hs
  have hnext := hfirst s hs
  rw [bind_apply]
  cases hrun : first s with
  | mk outcome next =>
      rw [hrun] at hnext
      cases outcome with
      | ok value => exact hsecond value next hnext
      | error e => exact hnext

theorem Keeps.attemptAll {invariant : σ → Prop} {action : β → Action σ α}
    (haction : ∀ item, Keeps invariant (action item)) (items : List β) {s : σ}
    (hs : invariant s) : invariant (attemptAll action items s).2 :=
  (attemptAll_forall₂ invariant (fun _ _ => True) action
    (fun item _ s hs => ⟨trivial, haction item s hs⟩) hs).2

theorem mem_zip_attemptAll {invariant : σ → Prop} {action : β → Action σ α}
    (hkeeps : ∀ item, Keeps invariant (action item)) {item : β} {outcome : Outcome α}
    (hturn : ∀ s, invariant s → (action item s).1 = outcome) {items : List β} (hmem : item ∈ items)
    {s : σ} (hs : invariant s) :
    (item, outcome) ∈ items.zip (Action.attemptAll action items s).1 := by
  induction items generalizing s with
  | nil => cases hmem
  | cons first rest ih =>
      rw [Action.attemptAll, List.zip_cons_cons]
      rcases List.mem_cons.mp hmem with rfl | hrest
      · exact List.mem_cons.mpr (.inl (by rw [hturn s hs]))
      · exact List.mem_cons_of_mem _ (ih hrest (hkeeps first s hs))

theorem of_mem_zip_attemptAll {before after : σ → Prop} {action : β → Action σ α}
    (hbefore : ∀ item, Keeps before (action item))
    (hafter : ∀ item, Keeps (fun s => before s ∧ after s) (action item)) {item : β}
    {outcome : Outcome α}
    (hturn : ∀ s, before s → (action item s).1 = outcome → after (action item s).2)
    {items : List β} {s : σ} (hs : before s)
    (hmem : (item, outcome) ∈ items.zip (Action.attemptAll action items s).1) :
    after (Action.attemptAll action items s).2 := by
  induction items generalizing s with
  | nil => cases hmem
  | cons first rest ih =>
      have hnext := hbefore first s hs
      rw [Action.attemptAll, List.zip_cons_cons] at hmem
      rcases List.mem_cons.mp hmem with hfirst | hrest
      · obtain ⟨rfl, houtcome⟩ := Prod.mk.inj hfirst
        exact (Keeps.attemptAll hafter rest ⟨hnext, hturn s hs houtcome.symm⟩).2
      · exact ih hnext hrest

/-! ## Two runs -/

/-- From related states both actions answer alike and leave related states behind. -/
def Agree {τ : Type} (related : σ → τ → Prop) (first : Action σ α) (second : Action τ α) : Prop :=
  ∀ s t, related s t → (first s).1 = (second t).1 ∧ related (first s).2 (second t).2

namespace Agree

variable {τ : Type} {related : σ → τ → Prop}

theorem refl (action : Action σ α) : Agree Eq action action :=
  fun _ _ h => h ▸ ⟨rfl, rfl⟩

theorem answer (outcome : Outcome α) :
    Agree related (Action.answer outcome) (Action.answer outcome) :=
  fun _ _ h => ⟨rfl, h⟩

/-- The second actions have to agree only after values that the first one can answer with. -/
theorem bind {first : Action σ α} {second : Action τ α} (h : Agree related first second)
    {firstNext : α → Action σ β} {secondNext : α → Action τ β}
    (hnext : ∀ value, (∃ s t, related s t ∧ (first s).1 = .ok value) →
      Agree related (firstNext value) (secondNext value)) :
    Agree related (first >>= firstNext) (second >>= secondNext) := by
  intro s t hst
  obtain ⟨houtcome, hstate⟩ := h s t hst
  cases hfirst : first s with
  | mk outcome after =>
      rw [hfirst] at houtcome hstate
      have hsecond : second t = (outcome, (second t).2) := Prod.ext houtcome.symm rfl
      cases outcome with
      | error e =>
          rw [bind_of_error hfirst, bind_of_error hsecond]
          exact ⟨rfl, hstate⟩
      | ok value =>
          rw [bind_of_ok hfirst, bind_of_ok hsecond]
          exact hnext value ⟨s, t, hst, by rw [hfirst]⟩ _ _ hstate

theorem answer_bind {outcome : Outcome α} {firstNext : α → Action σ β}
    {secondNext : α → Action τ β}
    (hnext : ∀ value, outcome = .ok value → Agree related (firstNext value) (secondNext value)) :
    Agree related (Action.answer outcome >>= firstNext) (Action.answer outcome >>= secondNext) :=
  (Agree.answer outcome).bind fun value ⟨_, _, _, hvalue⟩ => hnext value hvalue

theorem attemptAll {first : β → Action σ α} {second : β → Action τ α} {items : List β}
    (h : ∀ item ∈ items, Agree related (first item) (second item)) {s : σ} {t : τ}
    (hst : related s t) :
    (Action.attemptAll first items s).1 = (Action.attemptAll second items t).1 ∧
      related (Action.attemptAll first items s).2 (Action.attemptAll second items t).2 := by
  induction items generalizing s t with
  | nil => exact ⟨rfl, hst⟩
  | cons item rest ih =>
      obtain ⟨houtcome, hstate⟩ := h item (by simp) s t hst
      obtain ⟨houtcomes, hlast⟩ := ih (fun other hother => h other (by simp [hother])) hstate
      simp only [Action.attemptAll, houtcome, houtcomes]
      exact ⟨trivial, hlast⟩

end Agree

end Action
end CertCatalog
