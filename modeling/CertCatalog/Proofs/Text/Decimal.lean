import CertCatalog.Text.Decimal
import Mathlib.Algebra.Group.Nat.Defs
import Mathlib.Data.List.Basic
import Mathlib.Data.List.TakeWhile
import Mathlib.Data.Nat.Basic

/-!
# Decimal numbers

The values that bounded reading accepts, and the digits of a written number.
-/

namespace CertCatalog.Text

/-! ## Values of digits -/

theorem digitsValue_eq_ofDigitChars (digits : List Char) :
    digitsValue digits = Nat.ofDigitChars 10 digits 0 := by
  simp only [digitsValue, Nat.ofDigitChars_eq_foldl, Nat.mul_comm]

theorem digit?_eq_ite (c : Char) :
    digit? c = if isDigit c then some (c.toNat - '0'.toNat) else none := rfl

theorem natural?_eq_some_iff {text : List Char} {n : Nat} :
    natural? text = some n ↔ text ≠ [] ∧ text.all isDigit = true ∧ digitsValue text = n := by
  unfold natural?
  cases text with
  | nil => simp
  | cons c rest =>
      cases hall : (c :: rest).all isDigit <;> simp

/-! ## Bounded reading -/

/-- Partial values only grow, so a value within the bound has no partial value beyond it. -/
theorem boundedDigits_eq_ok_iff {bound value : Nat} (hvalue : value < bound) {digits : List Char}
    {n : Nat} :
    boundedDigits bound value digits = .ok n ↔
      digits.all isDigit = true ∧ Nat.ofDigitChars 10 digits value = n ∧ n < bound := by
  induction digits generalizing value with
  | nil =>
      simp only [boundedDigits, Except.ok.injEq, List.all_nil, Nat.ofDigitChars_nil, true_and]
      exact ⟨fun h => ⟨h, h ▸ hvalue⟩, And.left⟩
  | cons c rest ih =>
      rw [boundedDigits, digit?_eq_ite, List.all_cons, Nat.ofDigitChars_cons, Nat.mul_comm 10]
      cases hdigit : isDigit c with
      | false => simp
      | true =>
          simp only [if_true, Bool.true_and]
          split
          · next hnext => exact ih hnext
          · next hlarge =>
              have hgrows := @Nat.ofDigitChars_eq_ofDigitChars_zero rest
                (value * 10 + (c.toNat - '0'.toNat))
              have hpow : 1 ≤ 10 ^ rest.length := Nat.one_le_pow _ _ (by decide)
              have hle := Nat.mul_le_mul_right (value * 10 + (c.toNat - '0'.toNat)) hpow
              simp only [reduceCtorEq, false_iff, not_and, not_lt]
              omega

theorem readBounded_eq_ok_iff {bound : Nat} (hbound : 0 < bound) {text : List Char} {n : Nat} :
    readBounded bound text = .ok n ↔
      ∃ digits, (text = digits ∨ text = '+' :: digits) ∧ natural? digits = some n ∧
        n < bound := by
  have hread : ∀ digits, digits ≠ [] →
      (boundedDigits bound 0 digits = .ok n ↔ natural? digits = some n ∧ n < bound) := by
    intro digits hne
    rw [boundedDigits_eq_ok_iff hbound, natural?_eq_some_iff, digitsValue_eq_ofDigitChars]
    simp only [hne, ne_eq, not_false_eq_true, true_and, and_assoc]
  have hplus : ∀ digits, natural? ('+' :: digits) = none := by
    intro digits
    simp [natural?, show isDigit '+' = false by decide]
  unfold readBounded
  split
  · simp [natural?]
  · simp [natural?, show isDigit '+' = false by decide]
  · next digits hne =>
      rw [hread digits hne]
      constructor
      · intro h
        exact ⟨digits, .inr rfl, h⟩
      · rintro ⟨others, rfl | heq, h⟩
        · simp [hplus] at h
        · cases heq
          exact h
  · next hnil _ hsign =>
      rw [hread text hnil]
      constructor
      · intro h
        exact ⟨text, .inl rfl, h⟩
      · rintro ⟨digits, rfl | rfl, h⟩
        · exact h
        · exact absurd rfl (hsign digits)

/-! ## Written numbers -/

theorem all_isDigit_showNat (n : Nat) : (showNat n).all isDigit = true :=
  List.all_eq_true.mpr fun _ hc => Nat.isDigit_of_mem_toDigits (by decide) (by decide) hc

theorem toString_eq_ofList_showNat (n : Nat) : toString n = String.ofList (showNat n) := rfl

theorem showNat_ne_nil (n : Nat) : showNat n ≠ [] := Nat.toDigits_ne_nil

theorem digitsValue_showNat (n : Nat) : digitsValue (showNat n) = n := by
  rw [digitsValue_eq_ofDigitChars, showNat, Nat.ofDigitChars_ten_toDigits]

theorem natural?_showNat (n : Nat) : natural? (showNat n) = some n :=
  natural?_eq_some_iff.mpr ⟨showNat_ne_nil n, all_isDigit_showNat n, digitsValue_showNat n⟩

theorem all_isDigit_showPadded (width n : Nat) : (showPadded width n).all isDigit = true := by
  rw [showPadded, List.all_append, all_isDigit_showNat, List.all_replicate]
  simp [show isDigit '0' = true by decide]

theorem digitsValue_showPadded (width n : Nat) : digitsValue (showPadded width n) = n := by
  rw [digitsValue_eq_ofDigitChars, showPadded, Nat.ofDigitChars_append,
    Nat.ofDigitChars_replicate_zero, Nat.mul_zero, showNat, Nat.ofDigitChars_ten_toDigits]

theorem showPadded_ne_nil (width n : Nat) : showPadded width n ≠ [] := by
  simp [showPadded, showNat_ne_nil]

theorem length_showPadded {width n : Nat} (hwidth : 0 < width) (hn : n < 10 ^ width) :
    (showPadded width n).length = width := by
  have hle : (showNat n).length ≤ width :=
    (Nat.length_toDigits_le_iff (by decide) hwidth).mpr hn
  rw [showPadded, List.length_append, List.length_replicate]
  omega

def EndsDigits (rest : List Char) : Prop :=
  ∀ c ∈ rest.head?, isDigit c = false

theorem endsDigits_cons {c : Char} (hc : isDigit c = false) (rest : List Char) :
    EndsDigits (c :: rest) := by
  rintro _ ⟨⟩
  exact hc

theorem takeWhile_isDigit_append {rest : List Char} (hrest : EndsDigits rest) (text : List Char) :
    (text ++ rest).takeWhile isDigit = text.takeWhile isDigit := by
  induction text with
  | nil =>
      cases rest with
      | nil => rfl
      | cons c rest => simp [hrest c rfl]
  | cons c text ih => simp only [List.cons_append, List.takeWhile_cons, ih]

theorem takeWhile_digits_append {digits rest : List Char} (hdigits : digits.all isDigit = true)
    (hrest : EndsDigits rest) : (digits ++ rest).takeWhile isDigit = digits := by
  rw [takeWhile_isDigit_append hrest, List.takeWhile_eq_self_iff]
  exact fun c hc => List.all_eq_true.mp hdigits c hc

theorem head?_showNat_ne {n : Nat} (hn : 0 < n) : (showNat n).head? ≠ some '0' := by
  induction n using Nat.strongRecOn with
  | ind n ih =>
      rw [showNat, Nat.toDigits_eq_if (by decide)]
      split
      · next hsmall =>
          have hall : ∀ digit < 10, 0 < digit → [Nat.digitChar digit].head? ≠ some '0' := by decide
          exact hall n hsmall hn
      · next hlarge =>
          rw [List.head?_append_of_ne_nil _ Nat.toDigits_ne_nil]
          exact ih (n / 10) (by omega) (by omega)

end CertCatalog.Text
