import CertCatalog.Certificate
import CertCatalog.Proofs.Instant.Distance
import CertCatalog.Proofs.Text.Decimal
import CertCatalog.Proofs.Text.Split

/-!
# Days until expiry

What the countdown of a certificate says of the time that is left, how it goes on, and that the
table row shows it.  The last day before the expiry and the first day after it both count as zero.
-/

namespace CertCatalog.Certificate

open CertCatalog.Text CertCatalog.Instant

/-! ## The countdown -/

theorem daysUntilExpiry_neg_iff {c : Certificate} {now : Instant} :
    c.daysUntilExpiry now < 0 ↔ now.nanosBetween c.expiresAt ≤ -nanosPerDay :=
  daysBetween_neg_iff

theorem lt_of_daysUntilExpiry_neg {c : Certificate} {now : Instant}
    (hneg : c.daysUntilExpiry now < 0) : c.expiresAt < now := by
  by_contra hnot
  have hless := neg_nanosPerDay_lt_of_le hnot
  exact absurd (daysUntilExpiry_neg_iff.mp hneg) (Int.not_le.mpr hless)

/-- The count tells expired certificates from others, but for those that expired within a day. -/
theorem tells_expired_iff {c : Certificate} {now : Instant} :
    (c.daysUntilExpiry now < 0 ↔ c.expiresAt < now) ↔
      ¬(c.expiresAt < now ∧ -nanosPerDay < now.nanosBetween c.expiresAt) := by
  rw [not_and, Int.not_lt, ← daysUntilExpiry_neg_iff]
  exact ⟨Iff.mpr, fun h => ⟨lt_of_daysUntilExpiry_neg, h⟩⟩

def expiringAt (expiry : Instant) : Certificate :=
  { id := "", commonName := "", sans := [], createdAt := .epoch, expiresAt := expiry
    revoked := false }

theorem counts_down_iff {now : Instant} :
    (∀ (c : Certificate) (later : Instant), now ≤ later →
        c.daysUntilExpiry later ≤ c.daysUntilExpiry now) ↔ ¬now.LeapsIntoNextDay := by
  constructor
  · intro hfalls hleaps
    obtain ⟨later, expiry, hle, hrises⟩ := exists_daysBetween_rises hleaps
    exact absurd (hfalls (expiringAt expiry) later hle) (Int.not_le.mpr hrises)
  · exact fun hstays c later hle => daysBetween_antitone hle hstays c.expiresAt

/-! ## The table row -/

theorem blank_notMem_toString (days : Int) : ' ' ∉ (toString days).toList := by
  have hdigits : ∀ n : Nat, ' ' ∉ n.repr.toList := by
    intro n hmem
    have hdigit := List.all_eq_true.mp (all_isDigit_showNat n) ' ' (by simpa [showNat] using hmem)
    exact absurd hdigit (by decide)
  change ' ' ∉ days.repr.toList
  rw [Int.repr_eq_if]
  split
  · exact hdigits _
  · simpa using hdigits _

def revokedMark (c : Certificate) : String :=
  if c.revoked then "yes" else "no"

theorem blank_notMem_revokedMark (c : Certificate) : ' ' ∉ c.revokedMark.toList := by
  rw [revokedMark]
  split <;> decide

theorem blank_append_alignRight (width : Nat) (cell : String) :
    " " ++ alignRight width cell =
      String.ofList (List.replicate (width - cell.length) ' ') ++ String.singleton ' ' ++ cell := by
  have hblanks := List.replicate_succ' (n := width - cell.length) (a := ' ')
  rw [List.replicate_succ] at hblanks
  apply String.toList_injective
  simp [alignRight, ← List.cons_append, hblanks]

theorem exists_splitOn_row (c : Certificate) (now : Instant) :
    ∃ front, splitOn (c.row now) ' ' =
      front ++ [toString (c.daysUntilExpiry now), c.revokedMark] := by
  let number := toString (c.daysUntilExpiry now)
  let cells := alignLeft 48 c.id ++ " " ++ alignLeft 32 c.commonName ++ " " ++
    alignLeft 18 c.expiresAt.minuteText
  let padding := String.ofList (List.replicate (6 - number.length) ' ')
  have hrow : c.row now = cells ++ padding ++ String.singleton ' ' ++
      (number ++ String.singleton ' ' ++ c.revokedMark) :=
    calc c.row now
      _ = cells ++ (" " ++ alignRight 6 number) ++ String.singleton ' ' ++ c.revokedMark := by
          rw [← String.append_assoc]
          rfl
      _ = _ := by simp only [blank_append_alignRight, padding, String.append_assoc]
  refine ⟨splitOn (cells ++ padding) ' ', ?_⟩
  rw [hrow, splitOn_append_separator, splitOn_append_separator,
    splitOn_of_notMem (blank_notMem_toString _), splitOn_of_notMem c.blank_notMem_revokedMark]
  rfl

/-! ## All together -/

/--
A certificate that has not expired counts no negative days, and one that has expired counts negative
days except within a day of its expiry.  The count is less than a day away from the time that is
left, and the row shows it.  As time goes on from an instant no count rises, unless the instant lies
within a leap second that ends a day.
-/
theorem expiry_counts_down (now : Instant) :
    (∀ c : Certificate,
      (¬c.expiresAt < now → 0 ≤ c.daysUntilExpiry now) ∧
        ((c.daysUntilExpiry now < 0 ↔ c.expiresAt < now) ↔
          ¬(c.expiresAt < now ∧ -nanosPerDay < now.nanosBetween c.expiresAt)) ∧
        |c.daysUntilExpiry now * nanosPerDay - now.nanosBetween c.expiresAt| < nanosPerDay ∧
        (now.isLeap = false → c.expiresAt.isLeap = false →
          now.nanosBetween c.expiresAt = c.expiresAt.sinceEpoch - now.sinceEpoch) ∧
        ∃ front, splitOn (c.row now) ' ' =
          front ++ [toString (c.daysUntilExpiry now), c.revokedMark]) ∧
      ((∀ (c : Certificate) (later : Instant), now ≤ later →
          c.daysUntilExpiry later ≤ c.daysUntilExpiry now) ↔ ¬now.LeapsIntoNextDay) := by
  refine ⟨fun c => ⟨?_, tells_expired_iff, abs_daysBetween_sub_lt _ _, nanosBetween_of_not_isLeap,
    c.exists_splitOn_row now⟩, counts_down_iff⟩
  exact fun hvalid => Int.not_lt.mp (mt lt_of_daysUntilExpiry_neg hvalid)

/-- Half a day after the expiry, and on both sides of a midnight with a leap second before it. -/
theorem expiry_countdown_fails :
    ¬(∀ (c : Certificate) (now : Instant), c.daysUntilExpiry now < 0 ↔ c.expiresAt < now) ∧
      ¬∀ (c : Certificate) (now later : Instant), now ≤ later →
        c.daysUntilExpiry later ≤ c.daysUntilExpiry now := by
  constructor
  · intro hall
    let noon : Instant := { day := 19723, second := 43200, nano := 0 }
    have hsign := hall (expiringAt { day := 19723, second := 0, nano := 0 }) noon
    exact absurd hsign (by decide)
  · intro hall
    let leap : Instant := { day := 17166, second := 86399, nano := 1500000000 }
    let midnight : Instant := { day := 17167, second := 0, nano := 0 }
    have hfalls := hall (expiringAt { day := 17168, second := 0, nano := 0 }) leap midnight
      (by decide)
    exact absurd hfalls (by decide)

end CertCatalog.Certificate
