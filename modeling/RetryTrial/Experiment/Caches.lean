import RetryTrial.Experiment.Cache

/-!
# Several caches over one store

Caches that share a store in memory each keep entries of their own. Rows may also be written behind
the back of the caches, and the line to the store may be cut and mended at any time.
-/

namespace RetryTrial

structure SharedCaches where
  caches : List ShareCache
  line : Line MemoryShares

inductive CacheAction
  | share (cache : Nat) (tenant : Uuid)
  | update (cache : Nat) (row : TenantShare)
  | forget (cache : Nat) (tenant : Uuid)
  | store (row : TenantShare)
  | row (tenant : Uuid)
  | cut (failure : Option Failure)

inductive CacheReply
  | done
  | failed (failure : Failure)
  | share (share : Nat)
  | row (row : Option TenantShare)
deriving DecidableEq

namespace SharedCaches

def loads (s : SharedCaches) : Nat := s.line.store.loads

/-- Carries out an action at a time. An action on a cache that does not exist does nothing. -/
def act (s : SharedCaches) (now : Nat) : CacheAction → Traced (CacheReply × SharedCaches)
  | .share i tenant =>
    match s.caches[i]? with
    | none => pure (.done, s)
    | some cache => do
      let (answer, cache, line) ← cache.share s.line now tenant
      let s := { s with caches := s.caches.set i cache, line }
      match answer with
      | .ok share => return (.share share, s)
      | .error failure => return (.failed failure, s)
  | .update i row =>
    match s.caches[i]? with
    | none => pure (.done, s)
    | some cache => do
      let (answer, cache, line) ← cache.update s.line row
      let s := { s with caches := s.caches.set i cache, line }
      match answer with
      | .ok () => return (.done, s)
      | .error failure => return (.failed failure, s)
  | .forget i tenant =>
    match s.caches[i]? with
    | none => pure (.done, s)
    | some cache => pure (.done, { s with caches := s.caches.set i (cache.forget tenant) })
  | .store row => pure (.done, { s with line := { s.line with store := s.line.store.write row } })
  | .row tenant =>
    let (row, store) := s.line.store.read tenant
    pure (.row row, { s with line := { s.line with store } })
  | .cut failure => pure (.done, { s with line := { s.line with cut := failure } })

end SharedCaches

end RetryTrial
