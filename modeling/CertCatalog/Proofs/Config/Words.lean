import CertCatalog.Proofs.Config.Sources
import CertCatalog.Proofs.Text.Decimal

/-!
# What variables and words say

The text that variables give a setting, and the words that spell the value of one.
-/

namespace CertCatalog

open CertCatalog.Text

/-! ## Variables -/

namespace Variables

variable {env : Variables}

/-- The trimmed text of the first of some variables that holds more than blanks. -/
def Gives (env : Variables) (names : List String) (text : String) : Prop :=
  ∃ before name after raw, names = before ++ name :: after ∧
    (∀ other ∈ before, ¬env.IsSet other) ∧ env name = some raw ∧ isAllBlank raw = false ∧
    text = trim raw

theorem value?_eq_none_iff {name : String} : env.value? name = none ↔ ¬env.IsSet name := by
  rw [Option.eq_none_iff_forall_ne_some]
  constructor
  · rintro hnone ⟨text, htext, hfilled⟩
    exact hnone _ (value?_eq_some_iff.mpr ⟨text, htext, hfilled, rfl⟩)
  · intro hunset value hvalue
    obtain ⟨text, htext, hfilled, -⟩ := value?_eq_some_iff.mp hvalue
    exact hunset ⟨text, htext, hfilled⟩

theorem firstValue?_eq_some_iff {names : List String} {text : String} :
    env.firstValue? names = some text ↔ env.Gives names text := by
  simp only [firstValue?, List.findSome?_eq_some_iff, value?_eq_some_iff, value?_eq_none_iff, Gives]
  constructor
  · rintro ⟨before, name, after, hnames, ⟨raw, hraw, hfilled, htext⟩, hbefore⟩
    exact ⟨before, name, after, raw, hnames, hbefore, hraw, hfilled, htext⟩
  · rintro ⟨before, name, after, raw, hnames, hbefore, hraw, hfilled, htext⟩
    exact ⟨before, name, after, hnames, ⟨raw, hraw, hfilled, htext⟩, hbefore⟩

theorem firstValue?_eq_none_iff {names : List String} :
    env.firstValue? names = none ↔ ∀ name ∈ names, ¬env.IsSet name := by
  simp only [firstValue?, List.findSome?_eq_none_iff, value?_eq_none_iff]

theorem firstValue?_singleton (env : Variables) (name : String) :
    env.firstValue? [name] = env.value? name := by
  rw [firstValue?, List.findSome?_cons]
  cases env.value? name <;> rfl

/--
Where the value of a setting comes from: its variables, the file if no variable is set, or else the
default.
-/
inductive Settles {α β : Type} (env : Variables) (names : List String)
    (spells : String → α → Prop) (inFile : Option β) (means : β → α → Prop) (usual : α) : α → Prop
  | byVariable {text : String} {value : α} (hgiven : env.Gives names text)
      (hvalue : spells text value) : Settles env names spells inFile means usual value
  | byFile {entry : β} {value : α} (hunset : ∀ name ∈ names, ¬env.IsSet name)
      (hentry : inFile = some entry) (hvalue : means entry value) :
      Settles env names spells inFile means usual value
  | byDefault (hunset : ∀ name ∈ names, ¬env.IsSet name) (hentry : inFile = none) :
      Settles env names spells inFile means usual usual

theorem settles_of {α β : Type} {names : List String} {spells : String → α → Prop}
    {inFile : Option β} {means : β → α → Prop} {usual value : α}
    (hvariable : ∀ text, env.firstValue? names = some text → spells text value)
    (hfile : ∀ entry, env.firstValue? names = none → inFile = some entry → means entry value)
    (husual : env.firstValue? names = none → inFile = none → value = usual) :
    env.Settles names spells inFile means usual value := by
  cases hgiven : env.firstValue? names with
  | some text => exact .byVariable (firstValue?_eq_some_iff.mp hgiven) (hvariable text hgiven)
  | none =>
      have hunset := firstValue?_eq_none_iff.mp hgiven
      cases hentry : inFile with
      | some entry => exact .byFile hunset rfl (hfile entry hgiven hentry)
      | none =>
          rw [husual hgiven hentry]
          exact .byDefault hunset rfl

theorem settles_of_or {α : Type} {names : List String} {spells : String → α → Prop}
    {inFile : Option String} {usual value : α}
    (hsome : ∀ text, (env.firstValue? names).or inFile = some text → spells text value)
    (hnone : (env.firstValue? names).or inFile = none → value = usual) :
    env.Settles names spells inFile spells usual value := by
  refine settles_of (fun text hgiven => hsome text ?_) (fun entry hgiven hentry => hsome entry ?_)
    fun hgiven hentry => hnone ?_
  · rw [hgiven, Option.some_or]
  · rw [hgiven, hentry, Option.none_or]
  · rw [hgiven, hentry, Option.none_or]

theorem Settles.spells_of_gives {α β : Type} {names : List String} {spells : String → α → Prop}
    {inFile : Option β} {means : β → α → Prop} {usual value : α}
    (h : env.Settles names spells inFile means usual value) {text : String}
    (hgives : env.Gives names text) : spells text value := by
  have hgiven := firstValue?_eq_some_iff.mpr hgives
  cases h with
  | byVariable hother hvalue =>
      rw [firstValue?_eq_some_iff.mpr hother] at hgiven
      cases hgiven
      exact hvalue
  | byFile hunset _ _ => rw [firstValue?_eq_none_iff.mpr hunset] at hgiven; cases hgiven
  | byDefault hunset _ => rw [firstValue?_eq_none_iff.mpr hunset] at hgiven; cases hgiven

end Variables

/-! ## Deployments and log formats -/

/-- A word chooses between two values, where no word stands for both. -/
theorem choice_eq_ok_iff {α : Type} {first second value : α} {words others : List String}
    (hapart : ∀ word ∈ words, word ∉ others) {word : String} {e : CatalogError} :
    (if words.contains word then .ok first
        else if others.contains word then .ok second else .error e : Outcome α) = .ok value ↔
      word ∈ words ∧ first = value ∨ word ∈ others ∧ second = value := by
  simp only [List.contains_iff_mem]
  by_cases hword : word ∈ words
  · simp [hword, hapart word hword]
  · by_cases hother : word ∈ others <;> simp [hword, hother]

def Deployment.words : Deployment → List String
  | .development => ["", "dev", "development"]
  | .production => ["prod", "production"]

def Deployment.IsSpelled (deployment : Deployment) (text : String) : Prop :=
  lowerAscii (trim text) ∈ deployment.words

instance (deployment : Deployment) (text : String) : Decidable (deployment.IsSpelled text) :=
  inferInstanceAs (Decidable (lowerAscii (trim text) ∈ deployment.words))

theorem Deployment.ofText_eq_ok_iff {text : String} {deployment : Deployment} :
    ofText text = .ok deployment ↔ deployment.IsSpelled text := by
  have hapart : ∀ word ∈ ["", "dev", "development"], word ∉ ["prod", "production"] := by decide
  unfold ofText IsSpelled
  dsimp only
  rw [choice_eq_ok_iff hapart]
  cases deployment <;> simp [words]

def LogFormat.words : LogFormat → List String
  | .pretty => ["pretty", "text"]
  | .json => ["json"]

def LogFormat.IsSpelled (format : LogFormat) (text : String) : Prop :=
  lowerAscii (trim text) ∈ format.words

instance (format : LogFormat) (text : String) : Decidable (format.IsSpelled text) :=
  inferInstanceAs (Decidable (lowerAscii (trim text) ∈ format.words))

theorem LogFormat.ofText_eq_ok_iff {text : String} {format : LogFormat} :
    ofText text = .ok format ↔ format.IsSpelled text := by
  have hapart : ∀ word ∈ ["pretty", "text"], word ∉ ["json"] := by decide
  have hjson : ∀ word : String, (word == "json") = ["json"].contains word := by
    intro word
    simp [Bool.beq_eq_decide_eq]
  unfold ofText IsSpelled
  dsimp only
  rw [hjson, choice_eq_ok_iff hapart]
  cases format <;> simp [words]

/-! ## Seconds -/

/-- Digits, perhaps with a plus sign before them, that spell a number of 64 bits. -/
def IsSeconds (text : String) (seconds : Nat) : Prop :=
  ∃ digits, (text.toList = digits ∨ text.toList = '+' :: digits) ∧
    natural? digits = some seconds ∧ seconds < bound64

theorem readBounded_eq_ok_iff_isSeconds {text : String} {seconds : Nat} :
    readBounded bound64 text.toList = .ok seconds ↔ IsSeconds text seconds :=
  readBounded_eq_ok_iff (by decide)

end CertCatalog
