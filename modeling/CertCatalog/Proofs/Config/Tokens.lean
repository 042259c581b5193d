import CertCatalog.Proofs.Config.Normal
import CertCatalog.Registry

/-!
# Tokens that stay hidden

Two runs on entries that differ in their tokens only cannot be told apart by what is printed: not by
the entries, not by faults, and not by the clients that are built from them.
-/

namespace CertCatalog

/-- The same failure, or two successes with related values. -/
inductive AgreeUpTo {ε α β : Type} (related : α → β → Prop) : Except ε α → Except ε β → Prop
  | ok {value : α} {other : β} (h : related value other) : AgreeUpTo related (.ok value) (.ok other)
  | error (e : ε) : AgreeUpTo related (.error e) (.error e)

namespace AgreeUpTo

variable {ε α β γ δ : Type}

theorem refl (outcome : Except ε α) : AgreeUpTo Eq outcome outcome := by
  cases outcome with
  | ok value => exact .ok rfl
  | error e => exact .error e

theorem bind {related : α → β → Prop} {result : γ → δ → Prop} {first : Except ε α}
    {other : Except ε β} {second : α → Except ε γ} {next : β → Except ε δ}
    (hfirst : AgreeUpTo related first other)
    (hsecond : ∀ value same, related value same → AgreeUpTo result (second value) (next same)) :
    AgreeUpTo result (first >>= second) (other >>= next) := by
  cases hfirst with
  | ok hvalue => exact hsecond _ _ hvalue
  | error e => exact .error e

end AgreeUpTo

namespace VaultEntry

def DifferInToken (e f : VaultEntry) : Prop :=
  ∃ token : Secret, f = { e with token := token } ∧ token.isBlank = e.token.isBlank

theorem DifferInToken.isEnabled_eq {e f : VaultEntry} (hdiffer : DifferInToken e f) :
    f.isEnabled = e.isEnabled := by
  obtain ⟨token, rfl, -⟩ := hdiffer
  rfl

theorem DifferInToken.id_eq {e f : VaultEntry} (hdiffer : DifferInToken e f) : f.id = e.id := by
  obtain ⟨token, rfl, -⟩ := hdiffer
  rfl

theorem DifferInToken.toJson_eq {e f : VaultEntry} (hdiffer : DifferInToken e f) :
    f.toJson = e.toJson := by
  obtain ⟨token, rfl, -⟩ := hdiffer
  rfl

theorem DifferInToken.completed {e f : VaultEntry} (hdiffer : DifferInToken e f) :
    DifferInToken e.completed f.completed := by
  obtain ⟨token, rfl, hblank⟩ := hdiffer
  refine ⟨token.trimmed, by simp only [VaultEntry.completed, normalId, normalMounts], ?_⟩
  rw [Secret.isBlank_trimmed, hblank]
  simp only [VaultEntry.completed, Secret.isBlank_trimmed]

/-! ## Normalization -/

/-- Of the token, only its blankness decides what happens to an entry. -/
theorem DifferInToken.normalize {e f : VaultEntry} (hdiffer : DifferInToken e f) :
    AgreeUpTo DifferInToken e.normalize f.normalize := by
  have hnormal := hdiffer.completed
  unfold VaultEntry.normalize
  generalize e.completed = normal at hnormal ⊢
  generalize f.completed = other at hnormal ⊢
  obtain ⟨token, rfl, hblank⟩ := hnormal
  dsimp only
  rw [hblank]
  split
  · exact .error _
  · split
    · exact .error _
    · split
      · exact .error _
      · split
        · exact .ok ⟨token, rfl, hblank⟩
        · exact .error _

variable (order : FaultOrder)

theorem DifferInToken.normalizeAt {e f : VaultEntry} (hdiffer : DifferInToken e f) (place : Nat) :
    AgreeUpTo DifferInToken (e.normalizeAt order place) (f.normalizeAt order place) := by
  have hnormal := hdiffer.normalize
  unfold VaultEntry.normalizeAt
  generalize e.normalize = first at hnormal ⊢
  generalize f.normalize = second at hnormal ⊢
  cases hnormal with
  | ok hrelated => exact .ok hrelated
  | error fault => exact .error _

theorem normalizeFrom_of_differInToken {entries others : List VaultEntry}
    (hdiffer : List.Forall₂ DifferInToken entries others) (place : Nat) (seen : List String) :
    AgreeUpTo (List.Forall₂ DifferInToken) (normalizeFrom order place seen entries)
      (normalizeFrom order place seen others) := by
  induction hdiffer generalizing place seen with
  | nil => exact .ok .nil
  | @cons e f entries others hfirst hrest ih =>
      unfold normalizeFrom
      rw [hfirst.isEnabled_eq]
      split
      · exact ih _ _
      · refine (hfirst.normalizeAt order place).bind fun normal other hnormal => ?_
        rw [hnormal.id_eq]
        split
        · exact .error _
        · exact (ih _ _).bind fun normals same hnormals => .ok (.cons hnormal hnormals)

end VaultEntry

/-! ## Clients -/

open VaultEntry

def Remote.LookAlike (r s : Remote) : Prop :=
  r.debugText = s.debugText

def Client.LookAlike : Client → Client → Prop
  | .remote v r, .remote w s => v.debugText = w.debugText ∧ r.LookAlike s
  | _, _ => False

theorem Remote.ofAddress_lookAlike (address : String) (token other : Secret)
    (trust : TrustOptions) (timeout : Nat) :
    AgreeUpTo LookAlike (ofAddress address token trust timeout)
      (ofAddress address other trust timeout) := by
  have hsame : ∀ base, LookAlike { base, token, timeout } { base, token := other, timeout } :=
    fun base => rfl
  unfold ofAddress
  split
  · exact .error _
  · split
    · exact .error _
    · dsimp only
      split
      · exact (AgreeUpTo.refl _).bind fun _ _ _ => .ok (hsame _)
      · exact .ok (hsame _)

theorem Remote.ofEntry_lookAlike {e f : VaultEntry} (hdiffer : DifferInToken e f) (files : Files)
    (timeout : Nat) : AgreeUpTo LookAlike (ofEntry e files timeout) (ofEntry f files timeout) := by
  obtain ⟨token, rfl, -⟩ := hdiffer
  unfold ofEntry
  have htrust : TrustOptions.ofEntry { e with token := token } files =
      TrustOptions.ofEntry e files := by simp only [TrustOptions.ofEntry]
  rw [htrust]
  refine (AgreeUpTo.refl _).bind fun trust same hsame => ?_
  subst hsame
  exact ofAddress_lookAlike e.address e.token token trust timeout

theorem Registry.clientOf_lookAlike {e f : VaultEntry} (hdiffer : DifferInToken e f)
    (config : Configuration) (files : Files) :
    AgreeUpTo Client.LookAlike (clientOf config files e) (clientOf config files f) := by
  refine (Remote.ofEntry_lookAlike hdiffer files _).bind fun r s halike => ?_
  obtain ⟨token, rfl, -⟩ := hdiffer
  exact .ok ⟨rfl, halike⟩

/--
Lists of entries that differ in their tokens only are normalized alike, with the same fault or with
normal forms that differ in their tokens only, whichever part of a fault comes first.  Such entries
have the same JSON text, and their servers and clients are set up with the same fault or look alike.
All tokens are printed alike.
-/
theorem VaultEntry.tokens_stay_hidden {entries others : List VaultEntry}
    (hdiffer : List.Forall₂ DifferInToken entries others) :
    (∀ order, AgreeUpTo (List.Forall₂ DifferInToken) (normalizeAll order entries)
        (normalizeAll order others)) ∧
      (∀ e f, DifferInToken e f →
        f.toJson.compact = e.toJson.compact ∧
        (∀ files timeout, AgreeUpTo Remote.LookAlike (Remote.ofEntry e files timeout)
          (Remote.ofEntry f files timeout)) ∧
        ∀ config files, AgreeUpTo Client.LookAlike (Registry.clientOf config files e)
          (Registry.clientOf config files f)) ∧
      ∀ s t : Secret, s.text = t.text ∧ s.debugText = t.debugText ∧
        s.toJson.compact = t.toJson.compact :=
  ⟨fun order => normalizeFrom_of_differInToken order hdiffer 0 [],
    fun _ _ hpair => ⟨congrArg Json.compact hpair.toJson_eq,
      fun files timeout => Remote.ofEntry_lookAlike hpair files timeout,
      fun config files => Registry.clientOf_lookAlike hpair config files⟩,
    fun _ _ => ⟨rfl, rfl, rfl⟩⟩

def VaultEntry.sampleWithToken (token : String) : VaultEntry :=
  { VaultEntry.empty with id := "a", address := "http://a", token := ⟨token⟩ }

theorem VaultEntry.tokens_stay_hidden_of_sample :
    (normalizeAll .idFirst [sampleWithToken " r "]).toOption.map (·.map (·.token)) = some [⟨"r"⟩] ∧
      (normalizeAll .idFirst [sampleWithToken "s"]).toOption.map (·.map (·.token)) = some [⟨"s"⟩] ∧
      AgreeUpTo (List.Forall₂ DifferInToken) (normalizeAll .idFirst [sampleWithToken " r "])
        (normalizeAll .idFirst [sampleWithToken "s"]) ∧
      AgreeUpTo Remote.LookAlike (Remote.ofEntry (sampleWithToken " r ") (.ofList []) 1)
        (Remote.ofEntry (sampleWithToken "s") (.ofList []) 1) := by
  have hpair : DifferInToken (sampleWithToken " r ") (sampleWithToken "s") :=
    ⟨⟨"s"⟩, rfl, by decide⟩
  obtain ⟨hnormal, hbuilt, -⟩ := tokens_stay_hidden (.cons hpair .nil)
  exact ⟨by decide +kernel, by decide +kernel, hnormal .idFirst, (hbuilt _ _ hpair).2.1 _ _⟩

end CertCatalog
