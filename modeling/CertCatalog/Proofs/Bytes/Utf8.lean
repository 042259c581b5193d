import CertCatalog.Bytes.Utf8

/-!
# UTF-8 and back

The bytes of a text are read as that text, character by character.  The forms of one to four bytes
are told apart by their lead bytes.
-/

namespace CertCatalog.Bytes

/-! ## The four forms -/

theorem isContinuation_iff {b : UInt8} :
    isContinuation b = true ↔ 0x80 ≤ b.toNat ∧ b.toNat ≤ 0xBF := by
  simp [isContinuation, UInt8.le_iff_toNat_le]

theorem isSecond_iff {lead b : UInt8} :
    isSecond lead b = true ↔ 0x80 ≤ b.toNat ∧ b.toNat ≤ 0xBF ∧
      (lead.toNat = 0xE0 → 0xA0 ≤ b.toNat) ∧ (lead.toNat = 0xED → b.toNat ≤ 0x9F) ∧
      (lead.toNat = 0xF0 → 0x90 ≤ b.toNat) ∧ (lead.toNat = 0xF4 → b.toNat ≤ 0x8F) := by
  simp only [isSecond, isContinuation, beq_iff_eq, ← UInt8.toNat_inj, UInt8.le_iff_toNat_le,
    UInt8.toNat_ofNat]
  repeat' split
  all_goals simp only [Bool.and_eq_true, decide_eq_true_eq]; omega

theorem nextChar_one {a : UInt8} (ha : a.toNat < 0x80) (rest : Bytes) :
    nextChar a rest = (some (Char.ofNat a.toNat), rest) := by
  have hlead : a < 0x80 := UInt8.lt_iff_toNat_lt.mpr ha
  unfold nextChar
  rw [if_pos hlead]

theorem nextChar_two {a b : UInt8} (ha : 0xC2 ≤ a.toNat ∧ a.toNat ≤ 0xDF)
    (hb : isContinuation b = true) (rest : Bytes) :
    nextChar a (b :: rest) =
      (some (Char.ofNat (a.toNat % 32 * 64 + b.toNat % 64)), rest) := by
  have hascii : ¬a < 0x80 := by simp [UInt8.lt_iff_toNat_lt]; omega
  have hlead : 0xC2 ≤ a && a ≤ 0xDF := by simpa [UInt8.le_iff_toNat_le] using ha
  unfold nextChar
  rw [if_neg hascii, if_pos hlead]
  simp only [hb, if_true]
  rfl

theorem nextChar_three {a b c : UInt8} (ha : 0xE0 ≤ a.toNat ∧ a.toNat ≤ 0xEF)
    (hb : isSecond a b = true) (hc : isContinuation c = true) (rest : Bytes) :
    nextChar a (b :: c :: rest) =
      (some (Char.ofNat (a.toNat % 16 * 4096 + b.toNat % 64 * 64 + c.toNat % 64)), rest) := by
  have hascii : ¬a < 0x80 := by simp [UInt8.lt_iff_toNat_lt]; omega
  have htwo : ¬(0xC2 ≤ a && a ≤ 0xDF) := by simp [UInt8.le_iff_toNat_le]; omega
  have hlead : 0xE0 ≤ a && a ≤ 0xEF := by simpa [UInt8.le_iff_toNat_le] using ha
  unfold nextChar
  rw [if_neg hascii, if_neg htwo, if_pos hlead]
  simp only [hb, hc, Bool.not_true, Bool.false_eq_true, if_false, if_true]
  rfl

theorem nextChar_four {a b c d : UInt8} (ha : 0xF0 ≤ a.toNat ∧ a.toNat ≤ 0xF4)
    (hb : isSecond a b = true) (hc : isContinuation c = true) (hd : isContinuation d = true)
    (rest : Bytes) :
    nextChar a (b :: c :: d :: rest) =
      (some (Char.ofNat (a.toNat % 8 * 262144 + b.toNat % 64 * 4096 + c.toNat % 64 * 64 +
        d.toNat % 64)), rest) := by
  have hascii : ¬a < 0x80 := by simp [UInt8.lt_iff_toNat_lt]; omega
  have htwo : ¬(0xC2 ≤ a && a ≤ 0xDF) := by simp [UInt8.le_iff_toNat_le]; omega
  have hthree : ¬(0xE0 ≤ a && a ≤ 0xEF) := by simp [UInt8.le_iff_toNat_le]; omega
  have hlead : 0xF0 ≤ a && a ≤ 0xF4 := by simpa [UInt8.le_iff_toNat_le] using ha
  unfold nextChar
  rw [if_neg hascii, if_neg htwo, if_neg hthree, if_pos hlead]
  simp only [hb, hc, hd, Bool.not_true, Bool.false_eq_true, if_false, if_true]
  rfl

/-! ## One character -/

theorem isContinuation_ofNat (n : Nat) : isContinuation (UInt8.ofNat (n % 64 + 128)) = true := by
  rw [isContinuation_iff, UInt8.toNat_ofNat_of_lt' (by simp [UInt8.size]; omega)]
  omega

/-- The bytes of a character are read as this character, whatever comes after them. -/
theorem nextChar_utf8EncodeChar (c : Char) :
    ∃ lead tail, String.utf8EncodeChar c = lead :: tail ∧
      ∀ rest, nextChar lead (tail ++ rest) = (some c, rest) := by
  have hvalid : c.toNat < 0xD800 ∨ 0xDFFF < c.toNat ∧ c.toNat < 0x110000 := c.valid
  have hbyte : ∀ n, n < 256 → (UInt8.ofNat n).toNat = n := fun n hn => UInt8.toNat_ofNat_of_lt' hn
  have hcode : c.val.toNat = c.toNat := rfl
  unfold String.utf8EncodeChar
  simp only [hcode]
  have hchar : ∀ n, n = c.toNat → Char.ofNat n = c := fun n hn => hn ▸ Char.ofNat_toNat c
  generalize c.toNat = v at hvalid hchar
  split
  · refine ⟨_, _, rfl, fun rest => ?_⟩
    have ha := hbyte v (by omega)
    rw [List.nil_append, nextChar_one (by omega), ha, hchar v rfl]
  · split
    · refine ⟨_, _, rfl, fun rest => ?_⟩
      have ha := hbyte (v / 64 % 32 + 192) (by omega)
      have hb := hbyte (v % 64 + 128) (by omega)
      rw [List.singleton_append, nextChar_two (by omega) (isContinuation_ofNat v), ha, hb,
        hchar _ (by omega)]
    · split
      · refine ⟨_, _, rfl, fun rest => ?_⟩
        have ha := hbyte (v / 4096 % 16 + 224) (by omega)
        have hb := hbyte (v / 64 % 64 + 128) (by omega)
        have hc := hbyte (v % 64 + 128) (by omega)
        rw [List.cons_append, List.singleton_append, nextChar_three (by omega)
          (isSecond_iff.mpr (by omega)) (isContinuation_ofNat v), ha, hb, hc, hchar _ (by omega)]
      · refine ⟨_, _, rfl, fun rest => ?_⟩
        have ha := hbyte (v / 262144 % 8 + 240) (by omega)
        have hb := hbyte (v / 4096 % 64 + 128) (by omega)
        have hc := hbyte (v / 64 % 64 + 128) (by omega)
        have hd := hbyte (v % 64 + 128) (by omega)
        rw [List.cons_append, List.cons_append, List.singleton_append,
          nextChar_four (by omega) (isSecond_iff.mpr (by omega)) (isContinuation_ofNat _)
            (isContinuation_ofNat v), ha, hb, hc, hd, hchar _ (by omega)]

/-! ## Texts -/

theorem readUtf8_encodeUtf8 (text : List Char) : readUtf8 (encodeUtf8 text) = text.map some := by
  induction text with
  | nil => rw [encodeUtf8, List.flatMap_nil, readUtf8, List.map_nil]
  | cons c text ih =>
      obtain ⟨lead, tail, hbytes, hnext⟩ := nextChar_utf8EncodeChar c
      rw [encodeUtf8, List.flatMap_cons, ← encodeUtf8, hbytes, List.cons_append, readUtf8,
        hnext, List.map_cons, ih]

@[simp] theorem text?_utf8 (text : String) : text? (utf8 text) = some text := by
  have hall : (text.toList.map some).mapM id = some text.toList := by
    induction text.toList with
    | nil => rfl
    | cons c rest ih => simp [ih]
  rw [text?, decodeUtf8?, utf8, readUtf8_encodeUtf8, hall, Option.map_some, String.ofList_toList]

theorem readUtf8_of_text? {bytes : Bytes} {text : String} (htext : text? bytes = some text) :
    readUtf8 bytes = text.toList.map some := by
  have hall : ∀ (read : List (Option Char)) (chars : List Char),
      read.mapM id = some chars → read = chars.map some := by
    intro read
    induction read with
    | nil => simp
    | cons c rest ih =>
        intro chars hchars
        simp only [List.mapM_cons, id_eq, Option.bind_eq_bind, Option.bind_eq_some_iff] at hchars
        obtain ⟨first, rfl, others, hothers, hpair⟩ := hchars
        cases hpair
        rw [ih others hothers, List.map_cons]
  obtain ⟨chars, hchars, rfl⟩ := Option.map_eq_some_iff.mp htext
  rw [String.toList_ofList]
  exact hall _ chars hchars

end CertCatalog.Bytes
