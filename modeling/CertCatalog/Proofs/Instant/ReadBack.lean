import CertCatalog.Instant.Text
import CertCatalog.Proofs.Instant.Calendar
import CertCatalog.Proofs.Text.Decimal

/-!
# Written instants and back

The text of an instant is read as this instant: years of any sign and length, fractions of any
length and leap seconds.
-/

namespace CertCatalog.Instant

open CertCatalog.Text

/-! ## Numbers and marks -/

theorem isBlank_of_isDigit {c : Char} (hc : isDigit c = true) : isBlank c = false := by
  simp only [isDigit, Bool.and_eq_true, decide_eq_true_eq] at hc
  have hlow : 48 ≤ c.toNat := hc.1
  have hhigh : c.toNat ≤ 57 := hc.2
  simp only [isBlank, Bool.or_eq_false_iff, Bool.and_eq_false_iff, decide_eq_false_iff_not,
    beq_eq_false_iff_ne]
  omega

theorem dropBlanks_cons {c : Char} (hc : isBlank c = false) (rest : List Char) :
    dropBlanks (c :: rest) = c :: rest := by
  rw [dropBlanks, List.dropWhile_cons_of_neg (by simp [hc])]

theorem exists_first_showPadded (width n : Nat) :
    ∃ c rest, showPadded width n = c :: rest ∧ isDigit c = true := by
  obtain ⟨c, rest, hdigits⟩ := List.exists_cons_of_ne_nil (showPadded_ne_nil width n)
  refine ⟨c, rest, hdigits, ?_⟩
  exact List.all_eq_true.mp (all_isDigit_showPadded width n) c (hdigits ▸ List.mem_cons_self)

theorem dropBlanks_showPadded (width n : Nat) (rest : List Char) :
    dropBlanks (showPadded width n ++ rest) = showPadded width n ++ rest := by
  obtain ⟨c, digits, hdigits, hc⟩ := exists_first_showPadded width n
  rw [hdigits, List.cons_append, dropBlanks_cons (isBlank_of_isDigit hc)]

theorem readNumber_showPadded {width n : Nat} (hwidth : 0 < width) (hn : n < 10 ^ width)
    (rest : List Char) : readNumber width (showPadded width n ++ rest) = some (n, rest) := by
  have hlength := length_showPadded hwidth hn
  have htake : (showPadded width n ++ rest).take width = showPadded width n := by
    rw [List.take_append_of_le_length hlength.ge, List.take_of_length_le hlength.le]
  have hdigits : (showPadded width n).takeWhile isDigit = showPadded width n := by
    rw [List.takeWhile_eq_self_iff]
    exact List.all_eq_true.mp (all_isDigit_showPadded width n)
  simp [readNumber, dropBlanks_showPadded, htake, hdigits, showPadded_ne_nil,
    digitsValue_showPadded]

theorem readMark_cons {mark : Char} (hmark : isBlank mark = false) (rest : List Char) :
    readMark mark (mark :: rest) = some rest := by
  simp [readMark, dropBlanks_cons hmark]

/-! ## Years -/

theorem readYear_signed {rest : List Char} (hrest : EndsDigits rest) (n : Nat) :
    readYear ('-' :: (showPadded 4 n ++ rest)) = some (-(n : Int), rest) ∧
      readYear ('+' :: (showPadded 4 n ++ rest)) = some ((n : Int), rest) := by
  have hdigits := takeWhile_digits_append (all_isDigit_showPadded 4 n) hrest
  constructor
  · simp [readYear, dropBlanks_cons (show isBlank '-' = false by decide), hdigits,
      showPadded_ne_nil, digitsValue_showPadded]
  · simp [readYear, dropBlanks_cons (show isBlank '+' = false by decide), hdigits,
      showPadded_ne_nil, digitsValue_showPadded]

theorem readYear_plain {n : Nat} (hn : n < 10 ^ 4) (rest : List Char) :
    readYear (showPadded 4 n ++ rest) = some ((n : Int), rest) := by
  have hread := readNumber_showPadded (show 0 < 4 by decide) hn rest
  have hblanks := dropBlanks_showPadded 4 n rest
  obtain ⟨c, digits, hdigits, hc⟩ := exists_first_showPadded 4 n
  rw [hdigits, List.cons_append] at hread hblanks ⊢
  unfold readYear
  rw [hblanks]
  split
  · next heq =>
      cases heq
      exact absurd hc (by decide)
  · next heq =>
      cases heq
      exact absurd hc (by decide)
  · rw [hread]
    rfl

theorem readYear_showYear (year : Int) {rest : List Char} (hrest : EndsDigits rest) :
    readYear (showYear year ++ rest) = some (year, rest) := by
  unfold showYear
  split
  · next hrange =>
      simp only [Bool.and_eq_true, decide_eq_true_eq] at hrange
      rw [readYear_plain (by omega)]
      simp [hrange.1]
  · next hrange =>
      obtain ⟨hminus, hplus⟩ := readYear_signed hrest year.natAbs
      by_cases hsign : year < 0
      · rw [if_pos hsign, List.cons_append, hminus, show -(year.natAbs : Int) = year by omega]
      · rw [if_neg hsign, List.cons_append, hplus, show (year.natAbs : Int) = year by omega]

/-! ## Fractions -/

theorem readFraction_showPadded {width n : Nat} (hwidth : 0 < width) (hlong : width ≤ 9)
    (hn : n < 10 ^ width) :
    readFraction ('.' :: (showPadded width n ++ ['Z'])) =
      some (n * 10 ^ (9 - width), ['Z']) := by
  have hlength := length_showPadded hwidth hn
  have hends : EndsDigits (['Z'].take (9 - width)) := by
    cases 9 - width with
    | zero => simp [EndsDigits]
    | succ left => simp [EndsDigits, show isDigit 'Z' = false by decide]
  have hdigits : ((showPadded width n ++ ['Z']).take 9).takeWhile isDigit = showPadded width n := by
    rw [List.take_append, List.take_of_length_le (by omega), hlength]
    exact takeWhile_digits_append (all_isDigit_showPadded width n) hends
  simp [readFraction, hdigits, showPadded_ne_nil, digitsValue_showPadded, hlength,
    show isDigit 'Z' = false by decide]

/-- The digits that are left out are zeros. -/
theorem readFraction_showFraction {nanos : Nat} (hnanos : nanos < 1000000000) :
    readFraction (showFraction nanos ++ ['Z']) = some (nanos, ['Z']) := by
  unfold showFraction
  split
  · next hzero =>
      rw [beq_iff_eq.mp hzero]
      rfl
  · split
    · next hmillis =>
        rw [List.cons_append,
          readFraction_showPadded (by decide) (by decide) (by omega)]
        simp only [beq_iff_eq] at hmillis
        simp
        omega
    · split
      · next hmicros =>
          rw [List.cons_append,
            readFraction_showPadded (by decide) (by decide) (by omega)]
          simp only [beq_iff_eq] at hmicros
          simp
          omega
      · rw [List.cons_append,
          readFraction_showPadded (by decide) (by decide) (by omega)]
        simp

/-! ## Days and clocks -/

theorem isSupported_self (t : Instant) : isSupported t.day t.second t.nano = true := by
  have hfirst := t.first_le_day
  have hlast := t.day_le_last
  have hsecond := t.second_lt
  have hnano := t.nano_lt
  have hleap := t.leap_at_minute_end
  simp only [isSupported, Bool.and_eq_true, Bool.or_eq_true, decide_eq_true_eq, beq_iff_eq]
  omega

theorem ofParts?_self (t : Instant) : ofParts? t.day t.second t.nano = some t :=
  dif_pos t.isSupported_self

theorem hour_lt (t : Instant) : t.hour < 24 := by
  have hsecond := t.second_lt
  unfold hour
  omega

theorem minute_lt (t : Instant) : t.minute < 60 := Nat.mod_lt _ (by decide)

theorem fraction_lt (t : Instant) : t.fraction < 1000000000 := by
  have hnano := t.nano_lt
  have hleap : t.isLeap = decide (1000000000 ≤ t.nano) := rfl
  unfold fraction
  by_cases hlong : 1000000000 ≤ t.nano
  · simp [hleap, hlong]
    omega
  · simp [hleap, hlong]
    omega

theorem clockSecond_le (t : Instant) : t.clockSecond ≤ 60 := by
  unfold clockSecond
  split <;> omega

theorem ofLocal?_date (t : Instant) :
    ofLocal? t.date t.hour t.minute t.clockSecond t.fraction 0 = some t := by
  have hsecond := t.second_lt
  -- The sixtieth second is the nano part beyond the fifty-ninth one.
  have hclock : (if t.clockSecond == 60 then (59, t.fraction + 1000000000)
      else (t.clockSecond, t.fraction)) = (t.second % 60, t.nano) := by
    have hend := t.leap_at_minute_end
    have hleap : t.isLeap = decide (1000000000 ≤ t.nano) := rfl
    unfold clockSecond fraction
    by_cases hlong : 1000000000 ≤ t.nano
    · simp [hleap, hlong, hend hlong]
    · have hne : ¬t.second % 60 = 60 := by omega
      simp [hleap, hlong, hne]
  have hwhole : t.hour * 3600 + t.minute * 60 + t.second % 60 = t.second := by
    unfold hour minute
    omega
  have hvalid : t.date.isValid = true := Date.isValid_ofDayNumber t.day
  have hday : t.date.dayNumber = t.day := Date.dayNumber_ofDayNumber t.day
  have hsupported := t.ofParts?_self
  have hsame : (t.second : Int) / 86400 = 0 ∧ ((t.second : Int) % 86400).toNat = t.second := by
    omega
  unfold ofLocal?
  simp only [hvalid, t.hour_lt, t.minute_lt, t.clockSecond_le, decide_true, Bool.and_self, if_true,
    hclock, hwhole, hday, hsupported]
  simp [hsame, hsupported]

/-! ## Whole texts -/

theorem parts_lt (t : Instant) :
    t.date.month < 10 ^ 2 ∧ t.date.day < 10 ^ 2 ∧ t.hour < 10 ^ 2 ∧ t.minute < 10 ^ 2 ∧
      t.clockSecond < 10 ^ 2 := by
  have hvalid : t.date.isValid = true := Date.isValid_ofDayNumber t.day
  simp only [Date.isValid, Bool.and_eq_true, decide_eq_true_eq] at hvalid
  have hlength := Date.daysInMonth_le t.date.year t.date.month
  have hhour := t.hour_lt
  have hminute := t.minute_lt
  have hsecond := t.clockSecond_le
  omega

theorem ofText?_text (t : Instant) : ofText? t.text = some t := by
  obtain ⟨hmonth, hday, hhour, hminute, hsecond⟩ := t.parts_lt
  have hyear := fun rest => readYear_showYear t.date.year
    (endsDigits_cons (show isDigit '-' = false by decide) rest)
  have hpart {n : Nat} (hn : n < 10 ^ 2) := readNumber_showPadded (show 0 < 2 by decide) hn
  have hdash := readMark_cons (show isBlank '-' = false by decide)
  have hcolon := readMark_cons (show isBlank ':' = false by decide)
  have hoffset : readOffset (dropBlanks ['Z']) = some (0, []) := rfl
  rw [ofText?, text, String.toList_ofList, chars, showDate]
  simp only [List.append_assoc, List.cons_append, ofChars?, bind, Option.bind, hyear, hdash, hcolon,
    hpart hmonth, hpart hday, hpart hhour, hpart hminute, hpart hsecond,
    readFraction_showFraction t.fraction_lt, hoffset]
  exact t.ofLocal?_date

end CertCatalog.Instant
