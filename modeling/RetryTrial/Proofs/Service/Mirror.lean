import RetryTrial.Proofs.Experiment.Step
import RetryTrial.Proofs.Service.Decide

/-!
# A cache that mirrors memory

A world over a backend in memory mirrors a tenant's row if whatever its cache holds for the tenant
is the share that the row stands for. Then it answers this share or fails. It goes on mirroring the
row whatever is read, whatever is written for others, and whatever fails; and once the row is
replaced through the cache it mirrors the new one.
-/

namespace RetryTrial

/-- The backend is in memory, and this is the tenant's row there. -/
def Backend.Holds (tenant : Uuid) (row : Option TenantShare) : Backend → Prop
  | memory _ _ shares => shares.rows[tenant]? = row
  | database _ => False

namespace World

/-- The backend is in memory with this row of the tenant, and an entry of the tenant in the cache
has the share that the row stands for. -/
structure Mirrors (w : World) (tenant : Uuid) (fallback : Nat) (row : Option TenantShare) :
    Prop where
  holds : w.backend.store.Holds tenant row
  fallback_eq : w.cache.fallback = min fallback 100
  cached : ∀ e, w.cache.entries[tenant]? = some e → e.share = effectiveShare fallback row

variable {setup : Setup} {w w' : World} {now fallback share : Nat} {tenant other : Uuid}
  {row : Option TenantShare} {written : TenantShare} {failure : Failure} {attempt : Attempt}

section Access

variable {history methods : Ledger} {shares : MemoryShares}

theorem value_cachedShare_of_fresh (h : w.cache.fresh? now tenant = some share) :
    (w.cachedShare now tenant).value = (.ok share, w) := by
  simp [cachedShare, ShareCache.share_of_fresh h]

theorem value_cachedShare_of_memory (hf : w.cache.fresh? now tenant = none)
    (hb : w.backend = ⟨.memory history methods shares, none⟩) :
    (w.cachedShare now tenant).value =
      (.ok (w.cache.shareOf shares.rows[tenant]?),
        { w with
          cache := w.cache.remember now tenant (w.cache.shareOf shares.rows[tenant]?)
          backend :=
            ⟨.memory history methods { shares with loads := shares.loads + 1 }, none⟩ }) := by
  have hread : (ShareStore.read w.backend tenant).value =
      (.ok shares.rows[tenant]?,
        ⟨.memory history methods { shares with loads := shares.loads + 1 }, none⟩) := by
    rw [hb]
    rfl
  have hshare := ShareCache.share_of_row hf (congrArg Prod.fst hread)
  simp [cachedShare, hshare, hread]

theorem value_putShare_of_memory (hb : w.backend = ⟨.memory history methods shares, none⟩) :
    (w.putShare written).value =
      (.ok (),
        { w with
          cache := w.cache.forget written.tenant
          backend := ⟨.memory history methods (shares.write written), none⟩ }) := by
  have hwrite : (ShareStore.write w.backend written).value =
      (.ok (), ⟨.memory history methods (shares.write written), none⟩) := by
    rw [hb]
    rfl
  simp [putShare, ShareCache.update, hwrite]

theorem putShare_of_cut (hcut : w.backend.cut = some failure) :
    (w.putShare written).value.1 = .error failure := by
  simp [putShare, ShareCache.update, Line.write_of_cut hcut]

theorem cachedShare_of_cut (hf : w.cache.fresh? now tenant = none)
    (hcut : w.backend.cut = some failure) :
    (w.cachedShare now tenant).value.1 = .error failure := by
  have hread := congrArg (·.value.1) (Line.read_of_cut hcut tenant)
  simp [cachedShare, ShareCache.share_of_error hf hread]

end Access

namespace Mirrors

theorem congr (h : w.Mirrors tenant fallback row) (hc : w'.cache = w.cache)
    (hb : w'.backend.store = w.backend.store) : w'.Mirrors tenant fallback row := by
  refine ⟨?_, ?_, ?_⟩
  · rw [hb]
    exact h.holds
  · rw [hc]
    exact h.fallback_eq
  · rw [hc]
    exact h.cached

theorem exists_memory (h : w.Mirrors tenant fallback row) (hcut : w.backend.cut = none) :
    ∃ history methods shares, w.backend = ⟨.memory history methods shares, none⟩ ∧
      shares.rows[tenant]? = row := by
  have hholds := h.holds
  cases hw : w.backend with
  | mk store cut =>
      rw [hw] at hholds hcut
      obtain rfl : cut = none := hcut
      cases store with
      | memory history methods shares => exact ⟨history, methods, shares, rfl, hholds⟩
      | database db => exact hholds.elim

theorem share_eq (h : w.Mirrors tenant fallback row)
    (hs : (w.cachedShare now tenant).value.1 = .ok share) :
    share = effectiveShare fallback row := by
  cases hf : w.cache.fresh? now tenant with
  | some known =>
      rw [value_cachedShare_of_fresh hf] at hs
      obtain ⟨e, he, -, hknown⟩ := ShareCache.fresh?_eq_some_iff.mp hf
      rw [← Except.ok.inj hs, ← hknown]
      exact h.cached e he
  | none =>
      cases hcut : w.backend.cut with
      | some failure =>
          rw [cachedShare_of_cut hf hcut] at hs
          cases hs
      | none =>
          obtain ⟨history, methods, shares, hb, hrow⟩ := h.exists_memory hcut
          rw [value_cachedShare_of_memory hf hb] at hs
          rw [← Except.ok.inj hs, hrow, ShareCache.shareOf_eq h.fallback_eq]

theorem answered_iff (h : w.Mirrors tenant fallback row) :
    (w.cachedShare now tenant).value.1 = .ok (effectiveShare fallback row) ↔
      w.backend.cut = none ∨ ∃ share, w.cache.fresh? now tenant = some share := by
  cases hf : w.cache.fresh? now tenant with
  | some known =>
      have hknown := value_cachedShare_of_fresh hf
      simp [hknown, h.share_eq (congrArg Prod.fst hknown)]
  | none =>
      cases hcut : w.backend.cut with
      | some failure => simp [cachedShare_of_cut hf hcut]
      | none =>
          obtain ⟨history, methods, shares, hb, hrow⟩ := h.exists_memory hcut
          simp [value_cachedShare_of_memory hf hb, hrow, ShareCache.shareOf_eq h.fallback_eq]

/-- The row is replaced exactly if the rows can be reached. -/
theorem replaced_iff (h : w.Mirrors tenant fallback row) (written : TenantShare) :
    (w.putShare written).value.1 = .ok () ↔ w.backend.cut = none := by
  cases hcut : w.backend.cut with
  | some failure => simp [putShare_of_cut hcut]
  | none =>
      obtain ⟨history, methods, shares, hb, -⟩ := h.exists_memory hcut
      simp [value_putShare_of_memory hb]

theorem after_cachedShare (h : w.Mirrors tenant fallback row) (now : Nat) (other : Uuid) :
    (w.cachedShare now other).value.2.Mirrors tenant fallback row := by
  cases hf : w.cache.fresh? now other with
  | some known =>
      rw [value_cachedShare_of_fresh hf]
      exact h
  | none =>
      cases hcut : w.backend.cut with
      | some failure =>
          rw [value_cachedShare_of_error (cachedShare_of_cut hf hcut)]
          exact h
      | none =>
          obtain ⟨history, methods, shares, hb, hrow⟩ := h.exists_memory hcut
          rw [value_cachedShare_of_memory hf hb]
          refine ⟨hrow, h.fallback_eq, ?_⟩
          intro e he
          by_cases hother : other = tenant
          · subst hother
            have hentered : ⟨now, w.cache.shareOf shares.rows[other]?⟩ = e := by
              simpa [ShareCache.remember] using he
            rw [← hentered, hrow, ShareCache.shareOf_eq h.fallback_eq]
          · have hkept : w.cache.entries[tenant]? = some e := by
              simpa [ShareCache.remember, Std.ExtTreeMap.getElem?_insert, hother] using he
            exact h.cached e hkept

theorem after_putShare (h : w.Mirrors written.tenant fallback row)
    (hok : (w.putShare written).value.1 = .ok ()) :
    (w.putShare written).value.2.Mirrors written.tenant fallback (some written) := by
  cases hcut : w.backend.cut with
  | some failure =>
      rw [putShare_of_cut hcut] at hok
      cases hok
  | none =>
      obtain ⟨history, methods, shares, hb, -⟩ := h.exists_memory hcut
      rw [value_putShare_of_memory hb]
      refine ⟨Std.ExtTreeMap.getElem?_insert_self, h.fallback_eq, ?_⟩
      intro e he
      simp [ShareCache.forget] at he

theorem after_putShare_of_ne (h : w.Mirrors tenant fallback row)
    (hother : written.tenant ≠ tenant) :
    (w.putShare written).value.2.Mirrors tenant fallback row := by
  cases hcut : w.backend.cut with
  | some failure =>
      rw [value_putShare_of_error (putShare_of_cut hcut)]
      exact h
  | none =>
      obtain ⟨history, methods, shares, hb, hrow⟩ := h.exists_memory hcut
      rw [value_putShare_of_memory hb]
      refine ⟨?_, h.fallback_eq, ?_⟩
      · simpa [Backend.Holds, MemoryShares.write, Std.ExtTreeMap.getElem?_insert, hother] using hrow
      · intro e he
        have hkept : w.cache.entries[tenant]? = some e := by
          simpa [ShareCache.forget, Std.ExtTreeMap.getElem?_erase, hother] using he
        exact h.cached e hkept

theorem after_share (h : w.Mirrors tenant fallback row) (setup : Setup) (now : Nat) (other : Uuid) :
    (w.share setup now other).value.2.Mirrors tenant fallback row := by
  cases hd : w.sharesDown with
  | some failure =>
      rw [share_of_down hd]
      exact h
  | none =>
      cases ho : setup.origin with
      | fixed =>
          rw [share_of_fixed hd ho]
          exact h
      | cache =>
          have hcached := h.after_cachedShare now other
          rwa [World.share, hd, ho]

theorem after_decide (h : w.Mirrors tenant fallback row) (setup : Setup) (now : Nat)
    (attempt : Attempt) :
    (w.decide setup now attempt).value.2.Mirrors tenant fallback row := by
  by_cases hr : ∃ d share, Verdict setup w attempt d ∧
      (w.share setup now attempt.tenant).value.1 = .ok share
  · obtain ⟨d, share, hv, hs⟩ := hr
    rw [value_decide_of_share hv hs]
    exact (h.after_share setup now attempt.tenant).congr rfl rfl
  · rw [value_decide_of_not_reached hr]
    exact h

theorem decide_eq (h : w.Mirrors attempt.tenant fallback row) (ho : setup.origin = .cache)
    (hgate : (w.decide setup now attempt).value.2.gate ≠ w.gate) :
    ∃ d, Verdict setup w attempt d ∧
      (w.gate.decide setup.draws attempt.id (some d) (effectiveShare fallback row)).value =
        ((w.decide setup now attempt).value.1, (w.decide setup now attempt).value.2.gate) := by
  by_cases hr : ∃ d share, Verdict setup w attempt d ∧
      (w.share setup now attempt.tenant).value.1 = .ok share
  · obtain ⟨d, share, hv, hs⟩ := hr
    have hcached : (w.cachedShare now attempt.tenant).value.1 = .ok share := by
      cases hd : w.sharesDown with
      | some failure =>
          rw [share_of_down hd] at hs
          cases hs
      | none => rwa [World.share, hd, ho] at hs
    refine ⟨d, hv, ?_⟩
    rw [value_decide_of_share hv hs, h.share_eq hcached]
  · rw [value_decide_of_not_reached hr] at hgate
    exact absurd rfl hgate

end Mirrors

end World

end RetryTrial
