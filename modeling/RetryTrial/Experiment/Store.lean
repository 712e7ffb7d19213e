import Std.Data.ExtTreeMap
import RetryTrial.Traced

/-!
# Stored shares

A tenant's share is the part of its classified attempts, in percent, that is drawn into the
treatment group. A `ShareStore` keeps one row per tenant; reading and writing may fail. The rows in
memory are kept as they are written, and reads are counted. A store behind a `Line` fails every
access while the line is cut, and is not reached then.
-/

namespace RetryTrial

/-- A tenant's stored share, as it was written. -/
structure TenantShare where
  tenant : Uuid
  percent : Int32
deriving DecidableEq

def TenantShare.effective (s : TenantShare) : Nat := min s.percent.toInt.toNat 100

class ShareStore (σ : Type) where
  read : σ → Uuid → Traced (Except Failure (Option TenantShare) × σ)
  write : σ → TenantShare → Traced (Except Failure Unit × σ)

structure MemoryShares where
  rows : Std.ExtTreeMap Uuid TenantShare
  loads : Nat
deriving DecidableEq

namespace MemoryShares

def empty : MemoryShares := ⟨∅, 0⟩

def read (s : MemoryShares) (tenant : Uuid) : Option TenantShare × MemoryShares :=
  (s.rows[tenant]?, { s with loads := s.loads + 1 })

def write (s : MemoryShares) (row : TenantShare) : MemoryShares :=
  { s with rows := s.rows.insert row.tenant row }

instance : ShareStore MemoryShares where
  read s tenant := let (row, s) := s.read tenant; pure (.ok row, s)
  write s row := pure (.ok (), s.write row)

end MemoryShares

structure Line (σ : Type) where
  store : σ
  /-- Why the store cannot be reached, if it cannot. -/
  cut : Option Failure

namespace Line

variable {σ : Type} [ShareStore σ]

instance : ShareStore (Line σ) where
  read l tenant :=
    match l.cut with
    | some failure => pure (.error failure, l)
    | none => do
      let (answer, store) ← ShareStore.read l.store tenant
      return (answer, { l with store })
  write l row :=
    match l.cut with
    | some failure => pure (.error failure, l)
    | none => do
      let (answer, store) ← ShareStore.write l.store row
      return (answer, { l with store })

end Line

end RetryTrial
