import CertCatalog.Instant.Calendar

/-!
# Instants

Points in time in UTC, exact to the nanosecond, with room for leap seconds.  The supported days run
from the first of January of the year -262143 to the last of December of the year 262142.
-/

namespace CertCatalog

/--
A point in time.  `nano` counts from the start of the second; a leap second is the stretch from
one to two billion after the fifty-ninth second of a minute.
-/
structure Instant where
  day : Int
  second : Nat
  nano : Nat
  first_le_day : -96465292 ≤ day := by omega
  day_le_last : day ≤ 95026236 := by omega
  second_lt : second < 86400 := by omega
  nano_lt : nano < 2000000000 := by omega
  leap_at_minute_end : 1000000000 ≤ nano → second % 60 = 59 := by omega
  deriving DecidableEq, Repr

namespace Instant

def epoch : Instant :=
  { day := 0, second := 0, nano := 0 }

instance : Inhabited Instant := ⟨epoch⟩

def isSupported (day : Int) (second nano : Nat) : Bool :=
  -96465292 ≤ day && day ≤ 95026236 && second < 86400 && nano < 2000000000 &&
    (nano < 1000000000 || second % 60 == 59)

def ofParts? (day : Int) (second nano : Nat) : Option Instant :=
  if h : isSupported day second nano then
    some
      { day := day
        second := second
        nano := nano
        first_le_day := by simp [isSupported] at h; omega
        day_le_last := by simp [isSupported] at h; omega
        second_lt := by simp [isSupported] at h; omega
        nano_lt := by simp [isSupported] at h; omega
        leap_at_minute_end := by simp [isSupported] at h; omega }
  else none

def ofUnixSeconds? (seconds : Int) : Option Instant :=
  ofParts? (seconds / 86400) (seconds % 86400).toNat 0

def date (t : Instant) : Date :=
  Date.ofDayNumber t.day

def hour (t : Instant) : Nat := t.second / 3600

def minute (t : Instant) : Nat := t.second / 60 % 60

def isLeap (t : Instant) : Bool :=
  1000000000 ≤ t.nano

def clockSecond (t : Instant) : Nat :=
  if t.isLeap then 60 else t.second % 60

def fraction (t : Instant) : Nat :=
  if t.isLeap then t.nano - 1000000000 else t.nano

/-! ## Distance -/

/--
The nanoseconds from `earlier` to `later`.  A leap second of the instant that lies earlier in its
day counts in full; one of the instant that lies later in its day is left out until it has passed.
-/
def nanosBetween (earlier later : Instant) : Int :=
  let leap : Int :=
    if later.second > earlier.second && earlier.isLeap then 1
    else if later.second < earlier.second && later.isLeap then -1
    else 0
  ((later.day - earlier.day) * 86400 + (later.second - earlier.second) + leap) * 1000000000 +
    (later.nano - earlier.nano)

def daysBetween (earlier later : Instant) : Int :=
  ((nanosBetween earlier later).tdiv 1000000000).tdiv 86400

end Instant
end CertCatalog
