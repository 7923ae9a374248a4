import Owprov.Lib.FixedWindow

/-!
# The rate limiter

`RESTAPI_RateLimiter` counts the calls of a client for a path.  Clients and paths are told apart by
a hash, and the entry of a hash may leave the cache.
-/

namespace Owprov

open FixedWindow

/-- `ClientCacheEntry`. -/
structure ClientCacheEntry where
  start : ℤ
  count : ℕ
  deriving DecidableEq, Repr

/-- `Cache_`. -/
abbrev RateCache := UInt64 → Option ClientCacheEntry

/-- `IsRateLimited` with the time in milliseconds: whether the call is too much, and the cache after
it. -/
def isRateLimited (cache : RateCache) (h : UInt64) (period maxCalls now : ℤ) : Bool × RateCache :=
  match cache h with
  | none => (false, Function.update cache h (some { start := now, count := 1 }))
  | some entry =>
      if now - entry.start < period then
        (decide (maxCalls < entry.count + 1),
          Function.update cache h (some { entry with count := entry.count + 1 }))
      else
        (false, Function.update cache h (some { start := now, count := 1 }))

/-- A call of a host for a path, or the loss of an entry. -/
inductive RateEvent where
  | call (path host : String)
  | evict (h : UInt64)
  deriving DecidableEq, Repr

section Runs

variable (hash : String → UInt64) (period maxCalls : ℤ)

def RateEvent.key : RateEvent → UInt64
  | .call path host => hash (path ++ host)
  | .evict h => h

variable {hash period maxCalls}

/-- The window of an entry. -/
def ClientCacheEntry.window (entry : ClientCacheEntry) : Window where
  start := entry.start
  count := entry.count

def RateEvent.event : RateEvent → Event
  | .call _ _ => .call
  | .evict _ => .forget

variable {h : UInt64} {events : List (RateEvent × ℤ)}

end Runs

end Owprov
