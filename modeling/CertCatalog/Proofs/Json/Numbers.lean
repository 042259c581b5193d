import CertCatalog.Json.Reader
import CertCatalog.Proofs.Text.Decimal

/-!
# Number literals

A number is read up to the first character that does not go on with it, and whole numbers are read
as they are written.
-/

namespace CertCatalog.Json

open CertCatalog.Text

/-- What can stand behind a number without going on with it. -/
def EndsNumber (rest : List Char) : Prop :=
  EndsDigits rest ∧ ∀ c ∈ rest.head?, c ≠ '.' ∧ c ≠ 'e' ∧ c ≠ 'E'

theorem endsNumber_cons {c : Char} (rest : List Char) (hdigit : isDigit c = false)
    (hpoint : c ≠ '.') (hsmall : c ≠ 'e') (hlarge : c ≠ 'E') : EndsNumber (c :: rest) := by
  refine ⟨endsDigits_cons hdigit rest, ?_⟩
  rintro _ ⟨⟩
  exact ⟨hpoint, hsmall, hlarge⟩

theorem endsNumber_nil : EndsNumber [] := by simp [EndsNumber, EndsDigits]

variable {text rest left : List Char}

theorem digits1_append (hrest : EndsDigits rest) {digits : List Char}
    (h : digits1 text = some (digits, left)) :
    digits1 (text ++ rest) = some (digits, left ++ rest) := by
  have hprefix : (text.takeWhile isDigit).length ≤ text.length :=
    (List.takeWhile_sublist _).length_le
  unfold digits1 at h ⊢
  rw [takeWhile_isDigit_append hrest]
  dsimp only at h ⊢
  rw [List.drop_append_of_le_length hprefix]
  split
  · next hnone => rw [if_pos hnone] at h; cases h
  · next hsome =>
      rw [if_neg hsome] at h
      cases h
      rfl

theorem map_digits1_append (hrest : EndsDigits rest) (front : List Char → List Char)
    {written : List Char}
    (h : ((digits1 text).map fun found => (front found.1, found.2)) = some (written, left)) :
    ((digits1 (text ++ rest)).map fun found => (front found.1, found.2)) =
      some (written, left ++ rest) := by
  obtain ⟨⟨digits, left⟩, hdigits, hpair⟩ := Option.map_eq_some_iff.mp h
  cases hpair
  rw [digits1_append hrest hdigits]
  rfl

theorem wholePart_append (hrest : EndsDigits rest) {whole : List Char}
    (h : wholePart text = some (whole, left)) :
    wholePart (text ++ rest) = some (whole, left ++ rest) := by
  unfold wholePart at h
  split at h
  · cases h
    rfl
  · next hzero =>
      cases text with
      | nil => cases h
      | cons c text =>
        rw [List.cons_append, wholePart]
        · exact digits1_append hrest h
        · rintro next ⟨⟩
          exact hzero _ rfl

theorem fractionPart_append (hrest : EndsNumber rest) {fraction : List Char}
    (h : fractionPart text = some (fraction, left)) :
    fractionPart (text ++ rest) = some (fraction, left ++ rest) := by
  unfold fractionPart at h
  split at h
  · next after => exact map_digits1_append hrest.1 (List.cons '.') h
  · next hpoint =>
    cases h
    rw [fractionPart]
    intro after hafter
    cases text with
    | nil => exact (hrest.2 '.' (by simp_all)).1 rfl
    | cons c text =>
      cases hafter
      exact hpoint _ rfl

theorem exponentPart_append (hrest : EndsNumber rest) {exponent : List Char}
    (h : exponentPart text = some (exponent, left)) :
    exponentPart (text ++ rest) = some (exponent, left ++ rest) := by
  rcases text with _ | ⟨c, _ | ⟨sign, after⟩⟩
  · cases h
    cases rest with
    | nil => rfl
    | cons c rest =>
        obtain ⟨-, hsmall, hlarge⟩ := hrest.2 c rfl
        simp [exponentPart, hsmall, hlarge]
  · rw [exponentPart] at h
    split at h
    · cases h
    · next hother =>
      cases h
      cases rest with
      | nil => simp [exponentPart, hother]
      | cons d rest => simp [exponentPart, hother]
  · simp only [List.cons_append, exponentPart] at h ⊢
    split at h
    · next hexponent =>
      rw [if_pos hexponent]
      split at h
      · next hsign =>
        rw [if_pos hsign]
        exact map_digits1_append hrest.1 (fun digits => c :: sign :: digits) h
      · next hsign =>
        rw [if_neg hsign]
        exact map_digits1_append hrest.1 (List.cons c) h
    · next hother =>
      cases h
      rw [if_neg hother]
      rfl

def unsignedNumber (text : List Char) : Option (List Char × List Char) := do
  let (whole, text) ← wholePart text
  let (fraction, text) ← fractionPart text
  let (exponent, text) ← exponentPart text
  pure (whole ++ fraction ++ exponent, text)

def signPart : List Char → List Char × List Char
  | '-' :: rest => (['-'], rest)
  | text => ([], text)

theorem numberLiteral_eq (text : List Char) :
    numberLiteral text = (unsignedNumber (signPart text).2).map fun (written, rest) =>
      (String.ofList ((signPart text).1 ++ written), rest) := by
  unfold numberLiteral unsignedNumber
  show (wholePart (signPart text).2).bind _ = _
  cases hwhole : wholePart (signPart text).2 with
  | none => rfl
  | some whole =>
      cases hfraction : fractionPart whole.2 with
      | none => simp [hfraction]
      | some fraction =>
          cases hexponent : exponentPart fraction.2 with
          | none => simp [hfraction, hexponent]
          | some exponent =>
              simp [hfraction, hexponent, List.append_assoc]
              rfl

theorem signPart_append (hnonempty : text ≠ []) (rest : List Char) :
    signPart (text ++ rest) = ((signPart text).1, (signPart text).2 ++ rest) := by
  cases text with
  | nil => exact absurd rfl hnonempty
  | cons c text =>
      by_cases hc : c = '-'
      · subst hc
        rfl
      · simp [signPart, hc]

theorem unsignedNumber_append (hrest : EndsNumber rest) {written : List Char}
    (h : unsignedNumber text = some (written, left)) :
    unsignedNumber (text ++ rest) = some (written, left ++ rest) := by
  simp only [unsignedNumber, bind, pure, Option.bind_eq_some_iff] at h
  obtain ⟨⟨whole, _⟩, hwhole, ⟨fraction, _⟩, hfraction, ⟨exponent, _⟩, hexponent, heq⟩ := h
  cases heq
  simp [unsignedNumber, wholePart_append hrest.1 hwhole, fractionPart_append hrest hfraction,
    exponentPart_append hrest hexponent]

theorem numberLiteral_append (hrest : EndsNumber rest) {literal : String}
    (h : numberLiteral text = some (literal, left)) :
    numberLiteral (text ++ rest) = some (literal, left ++ rest) := by
  have hnonempty : text ≠ [] := by
    rintro rfl
    cases h
  rw [numberLiteral_eq] at h ⊢
  obtain ⟨⟨written, _⟩, hwritten, heq⟩ := Option.map_eq_some_iff.mp h
  cases heq
  rw [signPart_append hnonempty, unsignedNumber_append hrest hwritten]
  rfl

theorem exists_first_of_numberLiteral {literal : String}
    (h : numberLiteral text = some (literal, left)) :
    ∃ c rest, text = c :: rest ∧ (c = '-' ∨ isDigit c = true) := by
  cases text with
  | nil => cases h
  | cons c text =>
      refine ⟨c, text, rfl, ?_⟩
      by_cases hminus : c = '-'
      · exact .inl hminus
      · by_cases hzero : c = '0'
        · subst hzero
          exact .inr (by decide)
        · right
          cases hdigit : isDigit c with
          | true => rfl
          | false =>
              simp [numberLiteral_eq, signPart, hminus, unsignedNumber, wholePart, hzero, digits1,
                hdigit] at h

theorem digits1_of_all {digits rest : List Char} (hnonempty : digits ≠ [])
    (hdigits : digits.all isDigit = true) (hrest : EndsDigits rest) :
    digits1 (digits ++ rest) = some (digits, rest) := by
  simp [digits1, takeWhile_digits_append hdigits hrest, hnonempty]

theorem wholePart_showNat (n : Nat) : wholePart (showNat n) = some (showNat n, []) := by
  by_cases hn : n = 0
  · subst hn
    rfl
  · rw [wholePart]
    · have hread := digits1_of_all (showNat_ne_nil n) (all_isDigit_showNat n) endsNumber_nil.1
      rwa [List.append_nil] at hread
    · intro rest hzero
      exact head?_showNat_ne (Nat.pos_of_ne_zero hn) (hzero ▸ rfl)

theorem numberLiteral_showNat (n : Nat) :
    numberLiteral (showNat n) = some (String.ofList (showNat n), []) := by
  have hsign : signPart (showNat n) = ([], showNat n) := by
    obtain ⟨c, rest, hfirst⟩ := List.exists_cons_of_ne_nil (showNat_ne_nil n)
    have hdigit : isDigit c = true :=
      List.all_eq_true.mp (all_isDigit_showNat n) c (hfirst ▸ List.mem_cons_self)
    have hc : c ≠ '-' := by
      rintro rfl
      exact absurd hdigit (by decide)
    simp [hfirst, signPart, hc]
  simp [numberLiteral_eq, hsign, unsignedNumber, wholePart_showNat, fractionPart, exponentPart]

end CertCatalog.Json
