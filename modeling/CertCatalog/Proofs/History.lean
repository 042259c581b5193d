import Mathlib.Data.List.Basic

/-!
# Histories and runs

What a machine holds is often told by one step of its past and by what has not happened since.  Two
machines that take the same steps, but for some that do not matter, are compared step by step.
-/

namespace CertCatalog

/-! ## The past of a run -/

section Past

variable {ι : Type} {keeps sets : List ι → ι → Prop} {steps : List ι} {step : ι}

/--
Some step has satisfied `sets`, and all steps after it have satisfied `keeps`.  Both are told the
steps that went before.
-/
def Since (keeps sets : List ι → ι → Prop) (steps : List ι) : Prop :=
  ∃ before step after, steps = before ++ step :: after ∧ sets before step ∧
    ∀ between other rest, after = between ++ other :: rest →
      keeps (before ++ step :: between) other

theorem not_since_nil : ¬ Since keeps sets [] := by
  rintro ⟨before, step, after, hsplit, -, -⟩
  simp at hsplit

theorem since_concat :
    Since keeps sets (steps ++ [step]) ↔
      sets steps step ∨ keeps steps step ∧ Since keeps sets steps := by
  constructor
  · rintro ⟨before, first, after, hsplit, hset, hkept⟩
    rcases List.eq_nil_or_concat' after with rfl | ⟨rest, last, rfl⟩
    · obtain ⟨rfl, hlast⟩ := List.append_inj' hsplit rfl
      obtain rfl := List.singleton_inj.mp hlast
      exact .inl hset
    · rw [← List.cons_append, ← List.append_assoc] at hsplit
      obtain ⟨rfl, hlast⟩ := List.append_inj' hsplit rfl
      obtain rfl := List.singleton_inj.mp hlast
      refine .inr ⟨hkept rest step [] rfl, before, first, rest, rfl, hset, ?_⟩
      intro between other more hrest
      exact hkept between other (more ++ [step]) (by rw [hrest, List.append_assoc, List.cons_append])
  · rintro (hset | ⟨hkeep, before, first, after, rfl, hset, hkept⟩)
    · exact ⟨steps, step, [], rfl, hset, fun between other rest hnil => by simp at hnil⟩
    · refine ⟨before, first, after ++ [step], by simp, hset, ?_⟩
      intro between other rest hsplit
      rcases List.eq_nil_or_concat' rest with rfl | ⟨more, last, rfl⟩
      · obtain ⟨rfl, hlast⟩ := List.append_inj' hsplit rfl
        obtain rfl := List.singleton_inj.mp hlast
        exact hkeep
      · rw [← List.cons_append, ← List.append_assoc] at hsplit
        obtain ⟨rfl, -⟩ := List.append_inj' hsplit rfl
        exact hkept between other more rfl

end Past

/-! ## Two runs -/

section Runs

variable {σ τ ι ο : Type}

def traceOf (next : σ → ι → ο × σ) (s : σ) : List ι → List (ι × ο)
  | [] => []
  | step :: rest => (step, (next s step).1) :: traceOf next (next s step).2 rest

def stateAfter (next : σ → ι → ο × σ) (s : σ) (steps : List ι) : σ :=
  steps.foldl (fun s step => (next s step).2) s

/--
A relation between the states of two machines that lasts when both take a step that is `kept` and
when the first one alone takes another step.  Steps that are `seen` are kept, and both machines
answer them alike.
-/
structure Simulates (related : σ → τ → Prop) (first : σ → ι → ο × σ) (second : τ → ι → ο × τ)
    (kept seen : ι → Bool) : Prop where
  skip : ∀ s t step, related s t → kept step = false → related (first s step).2 t
  step : ∀ s t step, related s t → kept step = true →
    related (first s step).2 (second t step).2
  kept_of_seen : ∀ step, seen step = true → kept step = true
  answer_eq : ∀ s t step, related s t → seen step = true → (first s step).1 = (second t step).1

variable {related : σ → τ → Prop} {first : σ → ι → ο × σ} {second : τ → ι → ο × τ}
  {kept seen : ι → Bool} {s : σ} {t : τ}

theorem Simulates.stateAfter (h : Simulates related first second kept seen)
    (hst : related s t) (steps : List ι) :
    related (stateAfter first s steps) (stateAfter second t (steps.filter kept)) := by
  induction steps generalizing s t with
  | nil => exact hst
  | cons step rest ih =>
      cases hkept : kept step with
      | false =>
          rw [List.filter_cons_of_neg (by simp [hkept])]
          exact ih (h.skip s t step hst hkept)
      | true =>
          rw [List.filter_cons_of_pos hkept]
          exact ih (h.step s t step hst hkept)

theorem Simulates.traceOf_eq (h : Simulates related first second kept seen)
    (hst : related s t) (steps : List ι) :
    (traceOf first s steps).filter (seen ·.1) =
      (traceOf second t (steps.filter kept)).filter (seen ·.1) := by
  induction steps generalizing s t with
  | nil => rfl
  | cons step rest ih =>
      cases hkept : kept step with
      | false =>
          have hunseen : seen step = false := by
            by_contra hseen
            rw [h.kept_of_seen step (by simpa using hseen)] at hkept
            contradiction
          rw [List.filter_cons_of_neg (by simp [hkept]), traceOf,
            List.filter_cons_of_neg (by simp [hunseen])]
          exact ih (h.skip s t step hst hkept)
      | true =>
          have hrest := ih (h.step s t step hst hkept)
          rw [List.filter_cons_of_pos hkept, traceOf, traceOf]
          cases hseen : seen step with
          | false =>
              rw [List.filter_cons_of_neg (by simp [hseen]),
                List.filter_cons_of_neg (by simp [hseen])]
              exact hrest
          | true =>
              rw [List.filter_cons_of_pos (by simpa using hseen),
                List.filter_cons_of_pos (by simpa using hseen), hrest,
                h.answer_eq s t step hst hseen]

end Runs

end CertCatalog
