import CertCatalog.CatalogError

/-!
# Actions

An action on a state answers with a value or an error and leaves a state behind, after an error as
well as after a success.
-/

namespace CertCatalog

def Action (σ α : Type) : Type :=
  σ → Outcome α × σ

namespace Action

variable {σ α β : Type}

def answer (outcome : Outcome α) : Action σ α :=
  fun s => (outcome, s)

def andThen (first : Action σ α) (second : α → Action σ β) : Action σ β :=
  fun s =>
    match first s with
    | (.ok value, next) => second value next
    | (.error e, next) => (.error e, next)

instance : Monad (Action σ) where
  pure value := answer (.ok value)
  bind := andThen

def attemptAll (action : β → Action σ α) : List β → σ → List (Outcome α) × σ
  | [], s => ([], s)
  | item :: rest, s =>
      let (outcome, next) := action item s
      let (outcomes, last) := attemptAll action rest next
      (outcome :: outcomes, last)

@[simp] theorem pure_apply (value : α) (s : σ) :
    (pure value : Action σ α) s = (.ok value, s) := rfl

theorem bind_apply (first : Action σ α) (second : α → Action σ β) (s : σ) :
    (first >>= second) s =
      match first s with
      | (.ok value, next) => second value next
      | (.error e, next) => (.error e, next) := rfl

theorem bind_of_ok {first : Action σ α} {second : α → Action σ β} {s next : σ} {value : α}
    (h : first s = (.ok value, next)) : (first >>= second) s = second value next := by
  rw [bind_apply, h]

theorem bind_of_error {first : Action σ α} {second : α → Action σ β} {s next : σ}
    {e : CatalogError} (h : first s = (.error e, next)) :
    (first >>= second) s = (.error e, next) := by
  rw [bind_apply, h]

@[simp] theorem attemptAll_nil (action : β → Action σ α) (s : σ) :
    attemptAll action [] s = ([], s) := rfl

end Action
end CertCatalog
