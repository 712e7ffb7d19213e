import RetryTrial.Experiment.Store

/-!
# Cached shares

A `ShareCache` remembers the effective share of each tenant that was read from a store, with the
time of reading. An entry is served while it is no older than `lifetime`; after that the store is
read again. A tenant without a row has the default share. Writing a share through the cache forgets
the tenant's entry, so the next read sees it. A failed access changes no entry.
-/

namespace RetryTrial

structure CachedShare where
  loadedAt : Nat
  share : Nat
deriving DecidableEq

structure ShareCache where
  lifetime : Nat
  fallback : Nat
  entries : Std.ExtTreeMap Uuid CachedShare
deriving DecidableEq

namespace ShareCache

/-- An empty cache. A default above 100 counts as 100. -/
def new (lifetime fallback : Nat) : ShareCache := ⟨lifetime, min fallback 100, ∅⟩

/-- The share to serve at a time without reading the store. -/
def fresh? (c : ShareCache) (now : Nat) (tenant : Uuid) : Option Nat :=
  match c.entries[tenant]? with
  | some entry => if now - entry.loadedAt ≤ c.lifetime then some entry.share else none
  | none => none

/-- The share that a row of the store, or its absence, stands for. -/
def shareOf (c : ShareCache) (row : Option TenantShare) : Nat :=
  match row with
  | some row => row.effective
  | none => c.fallback

def remember (c : ShareCache) (now : Nat) (tenant : Uuid) (share : Nat) : ShareCache :=
  { c with entries := c.entries.insert tenant ⟨now, share⟩ }

def forget (c : ShareCache) (tenant : Uuid) : ShareCache :=
  { c with entries := c.entries.erase tenant }

variable {σ : Type} [ShareStore σ]

def share (c : ShareCache) (store : σ) (now : Nat) (tenant : Uuid) :
    Traced (Except Failure Nat × ShareCache × σ) :=
  match c.fresh? now tenant with
  | some share => pure (.ok share, c, store)
  | none => do
    let (answer, store) ← ShareStore.read store tenant
    match answer with
    | .error failure => return (.error failure, c, store)
    | .ok row =>
      let share := c.shareOf row
      Traced.log (.shareLoaded tenant share)
      return (.ok share, c.remember now tenant share, store)

/-- Writes a row to the store and forgets what was cached for its tenant. -/
def update (c : ShareCache) (store : σ) (row : TenantShare) :
    Traced (Except Failure Unit × ShareCache × σ) := do
  let (answer, store) ← ShareStore.write store row
  match answer with
  | .error failure => return (.error failure, c, store)
  | .ok () => return (.ok (), c.forget row.tenant, store)

end ShareCache

/-- Shares that are set by hand, with a default for the other tenants. -/
structure FixedShares where
  fallback : Nat
  shares : Std.ExtTreeMap Uuid Nat
deriving DecidableEq

namespace FixedShares

def new (fallback : Nat) : FixedShares := ⟨min fallback 100, ∅⟩

def set (f : FixedShares) (tenant : Uuid) (share : Nat) : FixedShares :=
  { f with shares := f.shares.insert tenant (min share 100) }

def share (f : FixedShares) (tenant : Uuid) : Nat := f.shares.getD tenant f.fallback

end FixedShares

end RetryTrial
