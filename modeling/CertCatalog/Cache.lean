import CertCatalog.Table

/-!
# A cache with expiry

Entries expire a fixed time after they were stored.  An expired entry is never found, and it stays
until a cleanup removes it.  Times are milliseconds on one clock.
-/

namespace CertCatalog

structure CacheEntry (α : Type) where
  value : α
  expiresAt : Nat
  deriving DecidableEq, Repr

def CacheEntry.isExpired {α : Type} (e : CacheEntry α) (now : Nat) : Bool :=
  e.expiresAt ≤ now

structure TtlCache (α : Type) where
  ttl : Nat
  table : Table (CacheEntry α)
  deriving DecidableEq, Repr

namespace TtlCache

variable {α : Type}

def defaultTtl : Nat := 300000

/-- The end of a clock that counts seconds with 63 bits, in milliseconds. -/
def longestClock : Nat := 9223372036854775808000

def empty (ttl : Nat) : TtlCache α :=
  { ttl := ttl, table := .empty }

def get? (cache : TtlCache α) (key : String) (now : Nat) : Option α :=
  match cache.table.get? key with
  | some entry => if entry.isExpired now then none else some entry.value
  | none => none

/-- The expiry is taken to lie before the end of the clock, which `fits` tells. -/
def insert (cache : TtlCache α) (key : String) (value : α) (now : Nat) : TtlCache α :=
  { cache with table := cache.table.insert key { value := value, expiresAt := now + cache.ttl } }

/--
Whether a value that is stored at `now` expires before the clock ends.  No later time can be told, so
no entry can be made of the value otherwise.
-/
def fits (cache : TtlCache α) (now clockEnd : Nat) : Bool :=
  now + cache.ttl < clockEnd

def erase (cache : TtlCache α) (key : String) : TtlCache α :=
  { cache with table := cache.table.erase key }

def clear (cache : TtlCache α) : TtlCache α :=
  empty cache.ttl

def cleanup (cache : TtlCache α) (now : Nat) : TtlCache α :=
  { cache with table := cache.table.filter (!·.2.isExpired now) }

/-- The number of stored entries, expired ones included. -/
def size (cache : TtlCache α) : Nat :=
  cache.table.size

def expiredCount (cache : TtlCache α) (now : Nat) : Nat :=
  cache.size - (cache.cleanup now).size

/-! ## Small facts -/

@[simp] theorem get?_empty (ttl : Nat) (key : String) (now : Nat) :
    (empty ttl : TtlCache α).get? key now = none := rfl

theorem get?_insert_self (cache : TtlCache α) (key : String) (value : α) (now later : Nat) :
    (cache.insert key value now).get? key later =
      if now + cache.ttl ≤ later then none else some value := by
  simp [get?, insert, Table.get?_insert_self, CacheEntry.isExpired]

end TtlCache
end CertCatalog
