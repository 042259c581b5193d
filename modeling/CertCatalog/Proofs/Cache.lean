import CertCatalog.Cache
import Mathlib.Data.List.Basic

/-!
# Entries of a cache

A cleanup hides no entry that would still be found, and what is found later is found before.  Caches
that differ in expired entries only cannot be told apart by lookups, now or later.
-/

namespace CertCatalog

theorem Table.find?_of_mem {α : Type} {entries : List (String × α)}
    (hnodup : (entries.map Prod.fst).Nodup) {pair : String × α} (hmem : pair ∈ entries) :
    entries.find? (·.1 == pair.1) = some pair := by
  induction entries with
  | nil => cases hmem
  | cons first rest ih =>
      obtain ⟨hfresh, hrest⟩ := List.nodup_cons.mp hnodup
      rcases List.mem_cons.mp hmem with rfl | hlater
      · simp
      · have hne : first.1 ≠ pair.1 := by
          intro heq
          exact hfresh (heq ▸ List.mem_map_of_mem hlater)
        simp [hne, ih hrest hlater]

theorem Table.get?_eq_some_iff {α : Type} {t : Table α} {key : String} {value : α} :
    t.get? key = some value ↔ (key, value) ∈ t.entries := by
  constructor
  · intro hfound
    obtain ⟨pair, hpair, rfl⟩ := Option.map_eq_some_iff.mp hfound
    have hkey : pair.1 = key := by simpa using List.find?_some hpair
    subst hkey
    exact List.mem_of_find?_eq_some hpair
  · intro hmem
    rw [get?, find?_of_mem t.keys_nodup hmem]
    rfl

theorem Table.get?_filter {α : Type} (t : Table α) (keep : String × α → Bool) (key : String) :
    (t.filter keep).get? key = (t.get? key).filter fun value => keep (key, value) := by
  ext value
  rw [get?_eq_some_iff, Option.filter_eq_some_iff, get?_eq_some_iff]
  exact List.mem_filter

theorem Table.get?_of_get?_filter {α : Type} {t : Table α} {keep : String × α → Bool}
    {key : String} {value : α} (hkept : (t.filter keep).get? key = some value) :
    t.get? key = some value := by
  rw [get?_filter] at hkept
  exact (Option.filter_eq_some_iff.mp hkept).1

namespace TtlCache

variable {α : Type}

theorem get?_eq_some_iff {cache : TtlCache α} {key : String} {now : Nat} {value : α} :
    cache.get? key now = some value ↔
      ∃ entry, cache.table.get? key = some entry ∧ now < entry.expiresAt ∧ entry.value = value := by
  unfold get?
  cases cache.table.get? key with
  | none => simp
  | some entry =>
      by_cases hexpired : entry.expiresAt ≤ now
      · simp [CacheEntry.isExpired, hexpired, Nat.not_lt.mpr hexpired]
      · simp [CacheEntry.isExpired, hexpired, Nat.not_le.mp hexpired]

theorem get?_of_later {cache : TtlCache α} {key : String} {now later : Nat} (hle : now ≤ later)
    {value : α} (hfound : cache.get? key later = some value) : cache.get? key now = some value := by
  obtain ⟨entry, hentry, hlt, hvalue⟩ := get?_eq_some_iff.mp hfound
  exact get?_eq_some_iff.mpr ⟨entry, hentry, by omega, hvalue⟩

theorem get?_of_get?_cleanup {cache : TtlCache α} {key : String} {now later : Nat} {value : α}
    (hfound : (cache.cleanup now).get? key later = some value) :
    cache.get? key later = some value := by
  obtain ⟨entry, hentry, hlt, hvalue⟩ := get?_eq_some_iff.mp hfound
  exact get?_eq_some_iff.mpr ⟨entry, Table.get?_of_get?_filter hentry, hlt, hvalue⟩

theorem get?_cleanup_of_le (cache : TtlCache α) (key : String) {now later : Nat}
    (hle : now ≤ later) : (cache.cleanup now).get? key later = cache.get? key later := by
  ext value
  constructor
  · exact get?_of_get?_cleanup
  · intro hfound
    obtain ⟨entry, hentry, hlt, hvalue⟩ := get?_eq_some_iff.mp hfound
    have hfresh : (!entry.isExpired now) = true := by
      simp only [CacheEntry.isExpired, Bool.not_eq_true', decide_eq_false_iff_not]
      omega
    refine get?_eq_some_iff.mpr ⟨entry, ?_, hlt, hvalue⟩
    rw [cleanup, Table.get?_filter, hentry]
    exact Option.filter_eq_some_iff.mpr ⟨rfl, hfresh⟩

theorem mem_entries_cleanup {cache : TtlCache α} {now : Nat} {pair : String × CacheEntry α} :
    pair ∈ (cache.cleanup now).table.entries ↔
      pair ∈ cache.table.entries ∧ now < pair.2.expiresAt := by
  rw [cleanup, Table.filter, List.mem_filter]
  simp [CacheEntry.isExpired]

/-! ## Caches that agree -/

/-- The entries that have not expired at `now` are the same. -/
structure Agrees (now : Nat) (a b : TtlCache α) : Prop where
  ttl_eq : a.ttl = b.ttl
  fresh_eq : (a.cleanup now).table.entries = (b.cleanup now).table.entries

namespace Agrees

variable {a b c : TtlCache α} {now : Nat}

theorem refl (now : Nat) (a : TtlCache α) : Agrees now a a :=
  ⟨rfl, rfl⟩

theorem symm (h : Agrees now a b) : Agrees now b a :=
  ⟨h.ttl_eq.symm, h.fresh_eq.symm⟩

theorem trans (hab : Agrees now a b) (hbc : Agrees now b c) : Agrees now a c :=
  ⟨hab.ttl_eq.trans hbc.ttl_eq, hab.fresh_eq.trans hbc.fresh_eq⟩

theorem cleanup_left (a : TtlCache α) {time : Nat} (hle : time ≤ now) :
    Agrees now (a.cleanup time) a := by
  refine ⟨rfl, ?_⟩
  simp only [cleanup, Table.filter, List.filter_filter]
  -- What has expired at the earlier time has expired at the later one as well.
  refine List.filter_congr fun pair _ => ?_
  simp only [CacheEntry.isExpired, ← decide_not, ← Bool.decide_and, decide_eq_decide]
  omega

theorem of_le (h : Agrees now a b) {later : Nat} (hle : now ≤ later) : Agrees later a b := by
  have hboth : ((a.cleanup now).cleanup later).table.entries =
      ((b.cleanup now).cleanup later).table.entries :=
    congrArg (List.filter fun pair : String × CacheEntry α => !pair.2.isExpired later) h.fresh_eq
  exact ⟨h.ttl_eq, (cleanup_left a hle).fresh_eq.symm.trans
    (hboth.trans (cleanup_left b hle).fresh_eq)⟩

theorem get?_eq (h : Agrees now a b) (key : String) : a.get? key now = b.get? key now := by
  rw [← get?_cleanup_of_le a key (Nat.le_refl now), ← get?_cleanup_of_le b key (Nat.le_refl now)]
  simp only [get?, Table.get?, h.fresh_eq]

theorem erase (h : Agrees now a b) (key : String) : Agrees now (a.erase key) (b.erase key) := by
  refine ⟨h.ttl_eq, ?_⟩
  simp only [cleanup, TtlCache.erase, Table.erase, Table.filter]
  rw [List.filter_comm, List.filter_comm _ _ b.table.entries]
  exact congrArg (List.filter fun pair : String × CacheEntry α => pair.1 != key) h.fresh_eq

theorem insert (h : Agrees now a b) (key : String) (value : α) :
    Agrees now (a.insert key value now) (b.insert key value now) := by
  refine ⟨h.ttl_eq, ?_⟩
  have hrest := (h.erase key).fresh_eq
  simp only [cleanup, TtlCache.erase, TtlCache.insert, Table.insert, Table.filter] at hrest ⊢
  rw [h.ttl_eq, List.filter_cons, List.filter_cons, hrest]

theorem clear (h : Agrees now a b) : Agrees now a.clear b.clear :=
  ⟨h.ttl_eq, rfl⟩

theorem le_of_size_eq_zero (h : Agrees now a b) (hempty : a.size = 0)
    {pair : String × CacheEntry α} (hpair : pair ∈ b.table.entries) :
    pair.2.expiresAt ≤ now := by
  by_contra hfresh
  have hkept : pair ∈ (a.cleanup now).table.entries := by
    rw [h.fresh_eq, mem_entries_cleanup]
    exact ⟨hpair, Nat.not_le.mp hfresh⟩
  rw [mem_entries_cleanup, List.eq_nil_of_length_eq_zero hempty] at hkept
  exact List.not_mem_nil hkept.1

end Agrees

end TtlCache
end CertCatalog
