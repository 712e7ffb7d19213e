import RetryTrial.Proofs.Service.Quiet

/-!
# Looking up and replacing a share

Looking up a tenant's share never touches the gate. If it fails, or if replacing it fails, nothing
has changed at all.
-/

namespace RetryTrial

theorem Backend.read_database (db : Database) (tenant : Uuid) :
    ShareStore.read (Backend.database db) tenant =
      ShareStore.read db tenant >>= fun answer => pure (answer.1, .database answer.2) := rfl

theorem Backend.write_database (db : Database) (row : TenantShare) :
    ShareStore.write (Backend.database db) row =
      ShareStore.write db row >>= fun answer => pure (answer.1, .database answer.2) := rfl

instance : AtomicStore Backend where
  entries_read b tenant := by
    cases b with
    | memory history methods shares => rfl
    | database db => simp [Backend.read_database, AtomicStore.entries_read]
  entries_write b row := by
    cases b with
    | memory history methods shares => rfl
    | database db => simp [Backend.write_database, AtomicStore.entries_write]
  read_error {b tenant failure} hf := by
    cases b with
    | memory history methods shares => cases hf
    | database db => rfl
  write_error {b row failure} hf := by
    cases b with
    | memory history methods shares => cases hf
    | database db => rfl

namespace World

variable {setup : Setup} {w : World} {now : Nat} {tenant : Uuid} {row : TenantShare}

theorem value_cachedShare_of_error {failure : Failure}
    (h : (w.cachedShare now tenant).value.1 = .error failure) :
    (w.cachedShare now tenant).value = (.error failure, w) := by
  have hs : (w.cache.share w.backend now tenant).value.1 = .error failure := h
  simp [cachedShare, ShareCache.value_share_of_error hs]

theorem value_putShare_of_error {failure : Failure}
    (h : (w.putShare row).value.1 = .error failure) :
    (w.putShare row).value = (.error failure, w) := by
  have hs : (w.cache.update w.backend row).value.1 = .error failure := h
  simp [putShare, ShareCache.value_update_of_error hs]

theorem share_of_down {failure : Failure} (h : w.sharesDown = some failure) (setup : Setup)
    (now : Nat) (tenant : Uuid) : w.share setup now tenant = pure (.error failure, w) := by
  simp [World.share, h]

theorem share_of_fixed (h : w.sharesDown = none) (ho : setup.origin = .fixed) (now : Nat)
    (tenant : Uuid) : w.share setup now tenant = pure (.ok (w.fixedShares.share tenant), w) := by
  simp [World.share, h, ho]

theorem share_of_cache (h : w.sharesDown = none) (ho : setup.origin = .cache) (now : Nat)
    (tenant : Uuid) : w.share setup now tenant =
      w.cache.share w.backend now tenant >>= fun answer =>
        pure (answer.1, { w with cache := answer.2.1, backend := answer.2.2 }) := by
  simp [World.share, h, ho, cachedShare]

@[simp] theorem gate_share (setup : Setup) (w : World) (now : Nat) (tenant : Uuid) :
    (w.share setup now tenant).value.2.gate = w.gate := by
  cases h : w.sharesDown with
  | some failure => rw [share_of_down h]; rfl
  | none =>
      cases ho : setup.origin with
      | fixed => rw [share_of_fixed h ho]; rfl
      | cache => rw [share_of_cache h ho]; rfl

theorem value_share_of_error {failure : Failure}
    (hs : (w.share setup now tenant).value.1 = .error failure) :
    (w.share setup now tenant).value = (.error failure, w) := by
  cases h : w.sharesDown with
  | some failure' =>
      rw [share_of_down h] at hs ⊢
      obtain rfl : failure' = failure := Except.error.inj hs
      rfl
  | none =>
      cases ho : setup.origin with
      | fixed =>
          rw [share_of_fixed h ho] at hs
          cases hs
      | cache =>
          rw [share_of_cache h ho] at hs ⊢
          simp [ShareCache.value_share_of_error hs]

theorem quiet_share (setup : Setup) (w : World) (now : Nat) (tenant : Uuid) :
    (w.share setup now tenant).Quiet := by
  cases h : w.sharesDown with
  | some failure =>
      rw [share_of_down h]
      exact Traced.quiet_pure _
  | none =>
      cases ho : setup.origin with
      | fixed =>
          rw [share_of_fixed h ho]
          exact Traced.quiet_pure _
      | cache =>
          rw [share_of_cache h ho]
          simpa using w.cache.quiet_share w.backend now tenant

end World

end RetryTrial
