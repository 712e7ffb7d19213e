import RetryTrial.Database
import RetryTrial.Experiment.Cache

/-!
# Failing accesses to shares

No store of shares logs anything, and an access that fails leaves the store as it was. Both carry
over to a store behind a line and to a cache over the store: a cache logs what it has loaded, and
keeps its entries when the store fails.
-/

namespace RetryTrial

/-- A store that logs nothing and that failing accesses leave as it was. -/
class AtomicStore (σ : Type) [ShareStore σ] : Prop where
  entries_read (s : σ) (tenant : Uuid) : (ShareStore.read s tenant).entries = []
  entries_write (s : σ) (row : TenantShare) : (ShareStore.write s row).entries = []
  read_error {s : σ} {tenant : Uuid} {failure : Failure} :
    (ShareStore.read s tenant).value.1 = .error failure → (ShareStore.read s tenant).value.2 = s
  write_error {s : σ} {row : TenantShare} {failure : Failure} :
    (ShareStore.write s row).value.1 = .error failure → (ShareStore.write s row).value.2 = s

instance : AtomicStore MemoryShares where
  entries_read _ _ := rfl
  entries_write _ _ := rfl
  read_error h := nomatch h
  write_error h := nomatch h

instance : AtomicStore Database where
  entries_read db tenant := by simp [ShareStore.read, Database.entries_ask]
  entries_write db row := by simp [ShareStore.write, Database.entries_ask]
  read_error _ := rfl
  write_error _ := rfl

namespace Line

variable {σ : Type} [ShareStore σ]

theorem read_of_cut {l : Line σ} {failure : Failure} (h : l.cut = some failure) (tenant : Uuid) :
    ShareStore.read l tenant = pure (.error failure, l) := by
  simp [ShareStore.read, h]

theorem read_of_open {l : Line σ} (h : l.cut = none) (tenant : Uuid) :
    ShareStore.read l tenant =
      ShareStore.read l.store tenant >>= fun answer =>
        pure (answer.1, { l with store := answer.2 }) := by
  simp [ShareStore.read, h]

theorem write_of_cut {l : Line σ} {failure : Failure} (h : l.cut = some failure)
    (row : TenantShare) : ShareStore.write l row = pure (.error failure, l) := by
  simp [ShareStore.write, h]

theorem write_of_open {l : Line σ} (h : l.cut = none) (row : TenantShare) :
    ShareStore.write l row =
      ShareStore.write l.store row >>= fun answer =>
        pure (answer.1, { l with store := answer.2 }) := by
  simp [ShareStore.write, h]

instance [AtomicStore σ] : AtomicStore (Line σ) where
  entries_read l tenant := by
    cases h : l.cut with
    | some failure => simp [read_of_cut h]
    | none => simp [read_of_open h, AtomicStore.entries_read]
  entries_write l row := by
    cases h : l.cut with
    | some failure => simp [write_of_cut h]
    | none => simp [write_of_open h, AtomicStore.entries_write]
  read_error {l tenant failure} hf := by
    cases h : l.cut with
    | some failure => simp [read_of_cut h]
    | none =>
        rw [read_of_open h] at hf ⊢
        have hs := AtomicStore.read_error hf
        simp [hs]
  write_error {l row failure} hf := by
    cases h : l.cut with
    | some failure => simp [write_of_cut h]
    | none =>
        rw [write_of_open h] at hf ⊢
        have hs := AtomicStore.write_error hf
        simp [hs]

end Line

namespace ShareCache

variable {σ : Type} [ShareStore σ] {c : ShareCache} {store : σ} {now : Nat} {tenant : Uuid}
  {failure : Failure}

theorem share_of_fresh {share : Nat} (h : c.fresh? now tenant = some share) (store : σ) :
    c.share store now tenant = pure (.ok share, c, store) := by
  simp [ShareCache.share, h]

theorem share_of_error (h : c.fresh? now tenant = none)
    (hs : (ShareStore.read store tenant).value.1 = .error failure) :
    c.share store now tenant =
      ShareStore.read store tenant >>= fun answer => pure (.error failure, c, answer.2) := by
  ext <;> simp [ShareCache.share, h, hs]

theorem share_of_row {row : Option TenantShare} (h : c.fresh? now tenant = none)
    (hs : (ShareStore.read store tenant).value.1 = .ok row) :
    c.share store now tenant =
      ShareStore.read store tenant >>= fun answer =>
        Traced.log (.shareLoaded tenant (c.shareOf row)) >>= fun _ =>
          pure (.ok (c.shareOf row), c.remember now tenant (c.shareOf row), answer.2) := by
  ext <;> simp [ShareCache.share, h, hs]

variable [AtomicStore σ]

/-- A share that cannot be loaded changes neither the cache nor the store. -/
theorem value_share_of_error (h : (c.share store now tenant).value.1 = .error failure) :
    (c.share store now tenant).value = (.error failure, c, store) := by
  cases hc : c.fresh? now tenant with
  | some share => simp [share_of_fresh hc] at h
  | none =>
      cases hs : (ShareStore.read store tenant).value.1 with
      | error failure' =>
          rw [share_of_error hc hs] at h ⊢
          obtain rfl : failure' = failure := Except.error.inj h
          simp [AtomicStore.read_error hs]
      | ok row => simp [share_of_row hc hs] at h

theorem value_update_of_error {row : TenantShare}
    (h : (c.update store row).value.1 = .error failure) :
    (c.update store row).value = (.error failure, c, store) := by
  cases hs : (ShareStore.write store row).value.1 with
  | error failure' =>
      simp only [ShareCache.update, Traced.value_bind, hs, Traced.value_pure] at h ⊢
      obtain rfl : failure' = failure := Except.error.inj h
      rw [AtomicStore.write_error hs]
  | ok done => simp [ShareCache.update, hs] at h

theorem entries_share (c : ShareCache) (store : σ) (now : Nat) (tenant : Uuid) :
    (c.share store now tenant).entries = [] ∨
      ∃ share, (c.share store now tenant).entries = [.shareLoaded tenant share] := by
  cases hc : c.fresh? now tenant with
  | some share => exact Or.inl (by simp [share_of_fresh hc])
  | none =>
      cases hs : (ShareStore.read store tenant).value.1 with
      | error failure => exact Or.inl (by simp [share_of_error hc hs, AtomicStore.entries_read])
      | ok row =>
          exact Or.inr ⟨c.shareOf row, by simp [share_of_row hc hs, AtomicStore.entries_read]⟩

end ShareCache

end RetryTrial
