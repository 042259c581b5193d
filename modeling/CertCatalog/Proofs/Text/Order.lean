import CertCatalog.Proofs.Bytes

/-!
# The order of texts

Texts are compared character by character.  UTF-8 keeps this order: comparing the bytes of two texts
gives the same answer as comparing the texts.
-/

namespace CertCatalog.Bytes

/-! ## One character -/

theorem val_lt_of_char (c : Char) : c.val.toNat < 0x110000 := by
  have hvalid := c.valid
  simp only [UInt32.isValidChar, Nat.isValidChar] at hvalid
  omega

/-- No form of a character begins another form, so what follows them does not matter. -/
theorem utf8EncodeChar_append_lt {c d : Char} (hlt : c < d) (after other : Bytes) :
    String.utf8EncodeChar c ++ after < String.utf8EncodeChar d ++ other := by
  have hvalue : c.val.toNat < d.val.toNat := UInt32.lt_iff_toNat_lt.mp hlt
  have hlast := val_lt_of_char d
  have htwo : ∀ value : Nat, value / 4096 = value / 64 / 64 :=
    fun value => (Nat.div_div_eq_div_mul value 64 64).symm
  have hthree : ∀ value : Nat, value / 262144 = value / 64 / 64 / 64 := by
    intro value
    rw [Nat.div_div_eq_div_mul, Nat.div_div_eq_div_mul]
  unfold String.utf8EncodeChar
  generalize c.val.toNat = low at hvalue ⊢
  generalize d.val.toNat = high at hvalue hlast ⊢
  -- A longer form has a greater lead byte; forms of one length are compared digit by digit to the
  -- base 64.
  dsimp only
  repeat' split
  all_goals simp only [List.cons_append, List.nil_append, List.cons_lt_cons_iff,
    UInt8.lt_iff_toNat_lt, ← UInt8.toNat_inj, UInt8.toNat_ofNat', htwo, hthree]
  all_goals omega

/-! ## Texts -/

theorem encodeUtf8_cons (c : Char) (text : List Char) :
    encodeUtf8 (c :: text) = String.utf8EncodeChar c ++ encodeUtf8 text :=
  List.flatMap_cons

theorem encodeUtf8_cons_ne_nil (c : Char) (text : List Char) : encodeUtf8 (c :: text) ≠ [] := by
  rw [encodeUtf8_cons]
  exact List.append_ne_nil_of_left_ne_nil String.utf8EncodeChar_ne_nil _

theorem encodeUtf8_lt {first second : List Char} (hlt : first < second) :
    encodeUtf8 first < encodeUtf8 second := by
  induction first generalizing second with
  | nil =>
      cases second with
      | nil => exact absurd hlt (List.lt_irrefl [])
      | cons d other =>
          obtain ⟨byte, bytes, hbytes⟩ :=
            List.exists_cons_of_ne_nil (encodeUtf8_cons_ne_nil d other)
          rw [hbytes]
          exact List.nil_lt_cons byte bytes
  | cons c rest ih =>
      cases second with
      | nil => exact absurd hlt (List.not_lt_nil _)
      | cons d other =>
          rw [encodeUtf8_cons, encodeUtf8_cons]
          rcases List.cons_lt_cons_iff.mp hlt with hhead | ⟨rfl, hrest⟩
          · exact utf8EncodeChar_append_lt hhead _ _
          · exact List.append_left_lt (ih hrest)

theorem utf8_lt_iff {first second : String} : utf8 first < utf8 second ↔ first < second := by
  constructor
  · intro hbytes
    rcases Std.lt_trichotomy first second with hlt | rfl | hgt
    · exact hlt
    · exact absurd hbytes (List.lt_irrefl _)
    · exact absurd hbytes (List.lt_asymm (encodeUtf8_lt (String.lt_iff.mp hgt)))
  · intro hlt
    exact encodeUtf8_lt (String.lt_iff.mp hlt)

theorem utf8_le_iff {first second : String} : utf8 first ≤ utf8 second ↔ first ≤ second := by
  rw [← List.not_lt, utf8_lt_iff, String.not_lt]

end CertCatalog.Bytes
