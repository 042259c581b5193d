import CertCatalog.Proofs.Bytes
import CertCatalog.Url.Percent

/-!
# Percent encoding and back

Decoding an encoded text gives its bytes, provided that the percent sign itself is encoded.
-/

namespace CertCatalog.Url

open CertCatalog.Bytes

/-- A set whose encoding can be undone: the percent sign and all bytes outside ASCII are in it. -/
structure IsReversible (inSet : UInt8 → Bool) : Prop where
  percent : inSet 0x25 = true
  outside : ∀ b, 0x80 ≤ b → inSet b = true

theorem lt_of_notInSet {inSet : UInt8 → Bool} (houtside : ∀ b, 0x80 ≤ b → inSet b = true)
    {b : UInt8} (hout : ¬inSet b = true) : b < 0x80 :=
  UInt8.not_le.mp fun hlarge => hout (houtside b hlarge)

/-! ## One byte -/

def shownByte (inSet : UInt8 → Bool) (b : UInt8) : List Char :=
  if inSet b then encodeByte b else [Char.ofNat b.toNat]

theorem percentEncode_eq_flatMap (inSet : UInt8 → Bool) (text : List Char) :
    percentEncode inSet text = (encodeUtf8 text).flatMap (shownByte inSet) := by
  rw [percentEncode, encodeUtf8, List.flatMap_assoc]
  rfl

theorem percentDecode_cons_of_ne {c : Char} (hc : c ≠ '%') (rest : List Char) :
    percentDecode (c :: rest) = String.utf8EncodeChar c ++ percentDecode rest := by
  rw [percentDecode]
  exact fun _ _ _ hpercent => absurd hpercent hc

theorem percentDecode_encodeByte (b : UInt8) (rest : List Char) :
    percentDecode (encodeByte b ++ rest) = b :: percentDecode rest := by
  obtain ⟨hhigh, hlow⟩ := digits_lt b
  simp only [encodeByte, upperHexPair, List.cons_append, List.nil_append, percentDecode,
    hexValue?_upperHexDigit hhigh, hexValue?_upperHexDigit hlow, ofNat_digits]

theorem percentDecode_shownByte {inSet : UInt8 → Bool} (hset : IsReversible inSet) (b : UInt8)
    (rest : List Char) : percentDecode (shownByte inSet b ++ rest) = b :: percentDecode rest := by
  unfold shownByte
  split
  · exact percentDecode_encodeByte b rest
  · next hout =>
      have hascii := lt_of_notInSet hset.outside hout
      have hshown : Char.ofNat b.toNat ≠ '%' := by
        intro hpercent
        have hbytes := utf8EncodeChar_ofNat hascii
        rw [hpercent] at hbytes
        obtain rfl : 0x25 = b := (List.cons.inj hbytes).1
        exact hout hset.percent
      rw [List.singleton_append, percentDecode_cons_of_ne hshown, utf8EncodeChar_ofNat hascii]
      rfl

/-! ## Texts -/

theorem percentDecode_flatMap_shownByte {inSet : UInt8 → Bool} (hset : IsReversible inSet)
    (bytes : Bytes) : percentDecode (bytes.flatMap (shownByte inSet)) = bytes := by
  induction bytes with
  | nil => rfl
  | cons b bytes ih => rw [List.flatMap_cons, percentDecode_shownByte hset, ih]

theorem percentDecode_percentEncode {inSet : UInt8 → Bool} (hset : IsReversible inSet)
    (text : List Char) : percentDecode (percentEncode inSet text) = encodeUtf8 text := by
  rw [percentEncode_eq_flatMap, percentDecode_flatMap_shownByte hset]

/-! ## Characters that are always encoded -/

/-- A character whose only byte is in the set and that no escape is made of. -/
structure IsHidden (inSet : UInt8 → Bool) (c : Char) : Prop where
  byte : ∃ b, String.utf8EncodeChar c = [b] ∧ inSet b = true
  percent : c ≠ '%'
  digit : ∀ value < 16, upperHexDigit value ≠ c

theorem not_mem_shownByte {inSet : UInt8 → Bool} (houtside : ∀ b, 0x80 ≤ b → inSet b = true)
    {c : Char} (hc : IsHidden inSet c) (b : UInt8) : c ∉ shownByte inSet b := by
  unfold shownByte
  split
  · obtain ⟨hhigh, hlow⟩ := digits_lt b
    simp [encodeByte, upperHexPair, hc.percent, (hc.digit _ hhigh).symm, (hc.digit _ hlow).symm]
  · next hout =>
      have hascii := lt_of_notInSet houtside hout
      intro hmem
      have hbytes := utf8EncodeChar_ofNat hascii
      rw [← List.mem_singleton.mp hmem] at hbytes
      obtain ⟨found, hfound, hin⟩ := hc.byte
      obtain rfl : found = b := (List.cons.inj (hfound.symm.trans hbytes)).1
      exact hout hin

theorem not_mem_percentEncode {inSet : UInt8 → Bool} (houtside : ∀ b, 0x80 ≤ b → inSet b = true)
    {c : Char} (hc : IsHidden inSet c) (text : List Char) : c ∉ percentEncode inSet text := by
  rw [percentEncode_eq_flatMap, List.mem_flatMap]
  rintro ⟨b, -, hmem⟩
  exact not_mem_shownByte houtside hc b hmem

/-! ## Sets -/

theorem pathSet_of_outside {b : UInt8} (hb : 0x80 ≤ b) : pathSet b = true := by
  have hle : 0x7F ≤ b := UInt8.le_trans (by decide) hb
  simp [pathSet, fragmentSet, controlSet, hle]

theorem isReversible_segmentSet : IsReversible segmentSet where
  percent := by decide
  outside b hb := by simp [segmentSet, pathSet_of_outside hb]

theorem isReversible_specialSegmentSet : IsReversible specialSegmentSet where
  percent := by decide
  outside b hb := by simp [specialSegmentSet, isReversible_segmentSet.outside b hb]

end CertCatalog.Url
