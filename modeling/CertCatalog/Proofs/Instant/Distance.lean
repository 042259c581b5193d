import CertCatalog.Instant.Basic
import Mathlib.Algebra.Order.Group.Abs
import Mathlib.Algebra.Order.Ring.Int

/-!
# The days between two instants

Whole days are counted toward zero, so the count is negative from one full day before on.  Leap
seconds make the distance to a fixed instant jump by up to a second as time goes on.  The jumps stay
within one day of the count, except for the one at the end of a leap second that ends a day.
-/

namespace CertCatalog.Instant

/-! ## Order -/

instance : LT Instant where
  lt t u := t.day < u.day ∨
    t.day = u.day ∧ (t.second < u.second ∨ t.second = u.second ∧ t.nano < u.nano)

instance : LE Instant where
  le t u := ¬u < t

theorem lt_iff {t u : Instant} :
    t < u ↔ t.day < u.day ∨
      t.day = u.day ∧ (t.second < u.second ∨ t.second = u.second ∧ t.nano < u.nano) :=
  Iff.rfl

theorem le_iff {t u : Instant} :
    t ≤ u ↔ t.day < u.day ∨
      t.day = u.day ∧ (t.second < u.second ∨ t.second = u.second ∧ t.nano ≤ u.nano) := by
  change ¬u < t ↔ _
  rw [lt_iff]
  omega

instance (t u : Instant) : Decidable (t < u) :=
  inferInstanceAs (Decidable (_ ∨ _))

instance (t u : Instant) : Decidable (t ≤ u) :=
  inferInstanceAs (Decidable (¬_))

/-! ## Distance -/

def nanosPerDay : Int := 86400000000000

/-- The place on a time line without leap seconds. -/
def sinceEpoch (t : Instant) : Int :=
  (t.day * 86400 + t.second) * 1000000000 + t.nano

theorem nanosBetween_of_not_isLeap {t u : Instant} (ht : t.isLeap = false)
    (hu : u.isLeap = false) : nanosBetween t u = u.sinceEpoch - t.sinceEpoch := by
  simp only [nanosBetween, sinceEpoch, ht, hu, Bool.and_false, Bool.false_eq_true, if_false]
  omega

def clockNanos (t u : Instant) : Int :=
  let leap : Int :=
    if u.second > t.second && t.isLeap then 1
    else if u.second < t.second && u.isLeap then -1
    else 0
  ((u.second - t.second : Int) + leap) * 1000000000 + (u.nano - t.nano)

theorem nanosBetween_eq (t u : Instant) :
    nanosBetween t u = (u.day - t.day) * nanosPerDay + clockNanos t u := by
  simp only [nanosBetween, clockNanos, nanosPerDay]
  generalize (if (decide (u.second > t.second) && t.isLeap) = true then (1 : Int)
    else if (decide (u.second < t.second) && u.isLeap) = true then -1 else 0) = leap
  omega

theorem clockNanos_cases (t u : Instant) :
    (t.second < u.second ∧ 1000000000 ≤ t.nano ∧
        clockNanos t u = (u.second - t.second + 1) * 1000000000 + (u.nano - t.nano)) ∨
      (u.second < t.second ∧ 1000000000 ≤ u.nano ∧
        clockNanos t u = (u.second - t.second - 1) * 1000000000 + (u.nano - t.nano)) ∨
      ((u.second ≤ t.second ∨ t.nano < 1000000000) ∧
        (t.second ≤ u.second ∨ u.nano < 1000000000) ∧
        clockNanos t u = (u.second - t.second) * 1000000000 + (u.nano - t.nano)) := by
  simp only [clockNanos, isLeap, Bool.and_eq_true, decide_eq_true_eq]
  split_ifs <;> omega

theorem neg_nanosPerDay_lt_of_le {t u : Instant} (hle : t ≤ u) :
    -nanosPerDay < nanosBetween t u := by
  have ht := t.nano_lt
  have hu := u.nano_lt
  have hearly := t.second_lt
  have hlate := u.second_lt
  rw [le_iff] at hle
  rw [nanosBetween_eq, nanosPerDay]
  rcases clockNanos_cases t u with hclock | hclock | hclock <;> omega

/-! ## Whole days -/

theorem daysBetween_of_nonneg {t u : Instant} (h : 0 ≤ nanosBetween t u) :
    daysBetween t u = nanosBetween t u / nanosPerDay := by
  have hseconds := Int.tdiv_eq_ediv_of_nonneg (b := 1000000000) h
  rw [daysBetween, hseconds, Int.tdiv_eq_ediv_of_nonneg (by omega), nanosPerDay]
  omega

theorem daysBetween_of_nonpos {t u : Instant} (h : nanosBetween t u ≤ 0) :
    daysBetween t u = -(-nanosBetween t u / nanosPerDay) := by
  obtain ⟨n, hn⟩ : ∃ n, nanosBetween t u = -n := ⟨_, (Int.neg_neg _).symm⟩
  have hseconds := Int.tdiv_eq_ediv_of_nonneg (a := n) (b := 1000000000) (by omega)
  rw [daysBetween, hn, Int.neg_tdiv, Int.neg_tdiv, hseconds,
    Int.tdiv_eq_ediv_of_nonneg (by omega), nanosPerDay]
  omega

theorem daysBetween_neg_iff {t u : Instant} :
    daysBetween t u < 0 ↔ nanosBetween t u ≤ -nanosPerDay := by
  rcases Int.le_total 0 (nanosBetween t u) with h | h
  · rw [daysBetween_of_nonneg h, nanosPerDay]
    omega
  · rw [daysBetween_of_nonpos h, nanosPerDay]
    omega

theorem abs_daysBetween_sub_lt (t u : Instant) :
    |daysBetween t u * nanosPerDay - nanosBetween t u| < nanosPerDay := by
  rw [abs_lt]
  rcases Int.le_total 0 (nanosBetween t u) with h | h
  · rw [daysBetween_of_nonneg h, nanosPerDay]
    omega
  · rw [daysBetween_of_nonpos h, nanosPerDay]
    omega

theorem daysBetween_le_of_le {t u e : Instant} (h : nanosBetween u e ≤ nanosBetween t e) :
    daysBetween u e ≤ daysBetween t e :=
  Int.tdiv_le_tdiv (by decide) (Int.tdiv_le_tdiv (by decide) h)

theorem daysBetween_eq_of_between {t u e : Instant} {k : Int}
    (ht : k * nanosPerDay < nanosBetween t e) (hu : nanosBetween u e < (k + 1) * nanosPerDay)
    (hlt : nanosBetween t e < nanosBetween u e) : daysBetween u e = daysBetween t e := by
  rw [nanosPerDay] at ht hu
  rcases lt_or_ge k 0 with hk | hk
  · rw [daysBetween_of_nonpos (by omega), daysBetween_of_nonpos (by omega), nanosPerDay]
    omega
  · rw [daysBetween_of_nonneg (by omega), daysBetween_of_nonneg (by omega), nanosPerDay]
    omega

/-! ## As time goes on -/

def lastDay : Int := 95026236

/-- The instant lies within a leap second that ends a day, and the next day is supported. -/
def LeapsIntoNextDay (t : Instant) : Prop :=
  t.second = 86399 ∧ 1000000000 < t.nano ∧ t.day < lastDay

instance (t : Instant) : Decidable t.LeapsIntoNextDay :=
  inferInstanceAs (Decidable (_ ∧ _))

theorem clockNanos_of_same_day {t u : Instant}
    (hle : t.second < u.second ∨ t.second = u.second ∧ t.nano ≤ u.nano) (e : Instant) :
    clockNanos u e ≤ clockNanos t e ∨
      (0 < clockNanos t e ∧ clockNanos u e < nanosPerDay) ∨
      (-nanosPerDay < clockNanos t e ∧ clockNanos u e < 0) := by
  have ht := t.nano_lt
  have hu := u.nano_lt
  have he := e.nano_lt
  have hlate := u.second_lt
  have hend := e.second_lt
  have htleap := t.leap_at_minute_end
  have huleap := u.leap_at_minute_end
  have heleap := e.leap_at_minute_end
  rw [nanosPerDay]
  rcases clockNanos_cases t e with h | h | h <;>
    rcases clockNanos_cases u e with h' | h' | h' <;> omega

theorem clockNanos_of_later_day {t : Instant} (hstays : t.second = 86399 → t.nano ≤ 1000000000)
    (u e : Instant) :
    clockNanos u e ≤ clockNanos t e + nanosPerDay ∨
      (-nanosPerDay < clockNanos t e ∧ clockNanos u e < nanosPerDay) := by
  have ht := t.nano_lt
  have hu := u.nano_lt
  have he := e.nano_lt
  have hearly := t.second_lt
  have hlate := u.second_lt
  have hend := e.second_lt
  have htleap := t.leap_at_minute_end
  have heleap := e.leap_at_minute_end
  rw [nanosPerDay]
  rcases clockNanos_cases t e with h | h | h <;>
    rcases clockNanos_cases u e with h' | h' | h' <;> omega

theorem nanosBetween_falls_or_stays {t u : Instant} (hle : t ≤ u) (hstays : ¬t.LeapsIntoNextDay)
    (e : Instant) :
    nanosBetween u e ≤ nanosBetween t e ∨
      ∃ k : Int, k * nanosPerDay < nanosBetween t e ∧
        nanosBetween u e < (k + 1) * nanosPerDay := by
  have hlast := u.day_le_last
  rw [nanosBetween_eq, nanosBetween_eq]
  rcases le_iff.mp hle with hlater | ⟨hday, hclock⟩
  · have hquiet : t.second = 86399 → t.nano ≤ 1000000000 := by
      simp only [LeapsIntoNextDay, lastDay] at hstays
      omega
    rcases clockNanos_of_later_day hquiet u e with hfalls | hwithin
    · exact .inl (by rw [nanosPerDay] at *; omega)
    · by_cases hnext : u.day = t.day + 1
      · exact .inr ⟨e.day - u.day, by rw [nanosPerDay] at *; omega⟩
      · exact .inl (by rw [nanosPerDay] at *; omega)
  · rcases clockNanos_of_same_day hclock e with hfalls | hahead | hbehind
    · exact .inl (by rw [nanosPerDay] at *; omega)
    · exact .inr ⟨e.day - u.day, by rw [nanosPerDay] at *; omega⟩
    · exact .inr ⟨e.day - u.day - 1, by rw [nanosPerDay] at *; omega⟩

theorem daysBetween_antitone {t u : Instant} (hle : t ≤ u) (hstays : ¬t.LeapsIntoNextDay)
    (e : Instant) : daysBetween u e ≤ daysBetween t e := by
  rcases le_or_gt (nanosBetween u e) (nanosBetween t e) with hfalls | hrises
  · exact daysBetween_le_of_le hfalls
  · rcases nanosBetween_falls_or_stays hle hstays e with hfalls | ⟨k, hlow, hhigh⟩
    · exact absurd hrises (Int.not_lt.mpr hfalls)
    · exact (daysBetween_eq_of_between hlow hhigh hrises).le

/-- From within a leap second that ends a day, the next midnight is one day nearer to its past. -/
theorem exists_daysBetween_rises {t : Instant} (hleaps : t.LeapsIntoNextDay) :
    ∃ u e, t ≤ u ∧ daysBetween t e < daysBetween u e := by
  obtain ⟨hsecond, hnano, hday⟩ := hleaps
  have hfirst := t.first_le_day
  rw [lastDay] at hday
  let midnight : Instant := { day := t.day + 1, second := 0, nano := 0 }
  let expiry : Instant :=
    { day := t.day, second := 0, nano := 1, day_le_last := t.day_le_last }
  refine ⟨midnight, expiry, le_iff.mpr (.inl (Int.lt_succ t.day)), ?_⟩
  have hbefore : daysBetween t expiry < 0 := by
    rw [daysBetween_neg_iff, nanosBetween_eq, nanosPerDay]
    rcases clockNanos_cases t expiry with h | h | h <;> simp only [expiry] at h ⊢ <;> omega
  have hafter : ¬daysBetween midnight expiry < 0 := by
    rw [daysBetween_neg_iff, nanosBetween_eq, nanosPerDay]
    rcases clockNanos_cases midnight expiry with h | h | h <;>
      simp only [midnight, expiry] at h ⊢ <;> omega
  omega

end CertCatalog.Instant
