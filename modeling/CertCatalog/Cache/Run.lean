import CertCatalog.Cache

/-!
# Runs of a cache

A cache together with its clock, and the steps that a user of it can take.  A value that would expire
after the end of the clock crashes its user, who holds the lock of the cache at that time; nobody gets
the lock after that, so what was stored is out of reach for good.
-/

namespace CertCatalog

inductive CacheStep (α : Type) where
  | insert (key : String) (value : α)
  | get (key : String)
  | erase (key : String)
  | clear
  | cleanup
  | sleep (millis : Nat)
  deriving DecidableEq, Repr

inductive CacheAnswer (α : Type) where
  | done
  | lookup (found : Option α)
  | removed (count : Nat)
  | crashed
  deriving DecidableEq, Repr

structure ClockedCache (α : Type) where
  cache : TtlCache α
  now : Nat
  clockEnd : Nat
  isPoisoned : Bool
  deriving DecidableEq, Repr

namespace ClockedCache

variable {α : Type}

def start (ttl clockEnd : Nat) : ClockedCache α :=
  { cache := TtlCache.empty ttl, now := 0, clockEnd := clockEnd, isPoisoned := false }

def insert (s : ClockedCache α) (key : String) (value : α) : CacheAnswer α × ClockedCache α :=
  if s.isPoisoned then (.done, s)
  else if s.cache.fits s.now s.clockEnd then
    (.done, { s with cache := s.cache.insert key value s.now })
  else (.crashed, { s with cache := s.cache.clear, isPoisoned := true })

def step (s : ClockedCache α) : CacheStep α → CacheAnswer α × ClockedCache α
  | .insert key value => s.insert key value
  | .get key => (.lookup (s.cache.get? key s.now), s)
  | .erase key => (.done, { s with cache := s.cache.erase key })
  | .clear => (.done, { s with cache := s.cache.clear })
  | .cleanup => (.removed (s.cache.expiredCount s.now), { s with cache := s.cache.cleanup s.now })
  | .sleep millis => (.done, { s with now := s.now + millis })

def run (s : ClockedCache α) (steps : List (CacheStep α)) : ClockedCache α :=
  steps.foldl (fun s step => (s.step step).2) s

end ClockedCache
end CertCatalog
