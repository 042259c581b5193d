import CertCatalog.Bytes.Utf8

/-!
# Digits and bytes

Two digits spell one byte, and the bytes of a text spell no other text.
-/

namespace CertCatalog.Bytes

/-! ## Digits -/

theorem hexValue?_upperHexDigit {value : Nat} (hvalue : value < 16) :
    hexValue? (upperHexDigit value) = some value := by
  have hall : ∀ digit < 16, hexValue? (upperHexDigit digit) = some digit := by decide
  exact hall value hvalue

theorem digits_lt (b : UInt8) : b.toNat / 16 < 16 ∧ b.toNat % 16 < 16 := by
  have hlt := b.toNat_lt
  omega

theorem ofNat_digits (b : UInt8) : UInt8.ofNat (b.toNat / 16 * 16 + b.toNat % 16) = b := by
  have hvalue : b.toNat / 16 * 16 + b.toNat % 16 = b.toNat := by omega
  rw [hvalue, UInt8.ofNat_toNat]

/-! ## Text -/

theorem utf8EncodeChar_ofNat {b : UInt8} (hb : b < 0x80) :
    String.utf8EncodeChar (Char.ofNat b.toNat) = [b] := by
  have hall : ∀ n < 128, String.utf8EncodeChar (Char.ofNat n) = [UInt8.ofNat n] := by
    decide +kernel
  have hlt : b.toNat < 128 := UInt8.lt_iff_toNat_lt.mp hb
  rw [hall b.toNat hlt, UInt8.ofNat_toNat]

theorem toByteArray_utf8 (text : String) : (utf8 text).toByteArray = text.toByteArray := by
  rw [← String.ofList_toList (s := text), String.toByteArray_ofList, utf8, String.toList_ofList]
  rfl

theorem utf8_injective {first second : String} (hbytes : utf8 first = utf8 second) :
    first = second := by
  rw [← String.toByteArray_inj, ← toByteArray_utf8, hbytes, toByteArray_utf8]

theorem utf8_eq_nil_iff {text : String} : utf8 text = [] ↔ text = "" :=
  ⟨fun hnil => utf8_injective (hnil.trans rfl), fun hempty => hempty ▸ rfl⟩

end CertCatalog.Bytes
