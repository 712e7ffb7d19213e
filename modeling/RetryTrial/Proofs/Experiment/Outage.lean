import Mathlib.Data.List.InsertIdx
import Mathlib.Data.Nat.Init
import RetryTrial.Proofs.Experiment.Refinement

/-!
# Failing accesses leave no trace

Only reading a share and updating a row can fail, and they fail while the line to the store is cut.
Then they change nothing and log nothing, so a failing step can be left out of a run without a
change to what any other step shows. While the line is cut, a cache answers exactly for the tenants
of which it holds an unexpired entry.
-/

namespace RetryTrial

namespace SharedCaches

variable {s : SharedCaches} {c : ShareCache} {k now : Nat} {tenant : Uuid} {failure : Failure}
  {action : CacheAction}

theorem act_of_failed (h : (s.act now action).value.1 = .failed failure) :
    s.act now action = pure (.failed failure, s) ∧ s.line.cut = some failure := by
  cases action with
  | share k tenant =>
      cases hc : s.caches[k]? with
      | none =>
          rw [value_act_share_of_missing hc] at h
          cases h
      | some c =>
          cases hf : c.fresh? now tenant with
          | some share =>
              rw [value_act_share_of_fresh hc hf] at h
              cases h
          | none =>
              cases hcut : s.line.cut with
              | none =>
                  rw [value_act_share_of_open hc hf hcut] at h
                  cases h
              | some cause =>
                  rw [act_share_of_cut hc hf hcut] at h ⊢
                  cases h
                  exact ⟨rfl, rfl⟩
  | update k row =>
      cases hc : s.caches[k]? with
      | none =>
          rw [value_act_update_of_missing hc] at h
          cases h
      | some c =>
          cases hcut : s.line.cut with
          | none =>
              rw [value_act_update_of_open hc hcut] at h
              cases h
          | some cause =>
              rw [act_update_of_cut hc hcut] at h ⊢
              cases h
              exact ⟨rfl, rfl⟩
  | forget k tenant =>
      cases hc : s.caches[k]? with
      | none =>
          rw [value_act_forget_of_missing hc] at h
          cases h
      | some c =>
          rw [value_act_forget hc] at h
          cases h
  | store row | row tenant | cut failure => cases h

end SharedCaches

namespace CacheRun

variable {r : CacheRun} {n m i now : Nat} {tenant : Uuid} {failure : Failure}

/-- What step `n` shows: its answer, what it logs, and how often the store was read up to it. -/
def shown? (r : CacheRun) (n : Nat) : Option (CacheReply × List LogEntry × Nat) :=
  r.steps[n]?.map fun step =>
    let done := (r.stage n).act step.1 step.2
    (done.value.1, done.entries, done.value.2.loads)

def without (r : CacheRun) (n : Nat) : CacheRun := { r with steps := r.steps.eraseIdx n }

theorem getElem?_steps_without (r : CacheRun) (n i : Nat) :
    (r.without n).steps[i]? = if i < n then r.steps[i]? else r.steps[i + 1]? :=
  List.getElem?_eraseIdx

theorem stage_succ_of_failed (h : r.reply? n = some (.failed failure)) :
    r.stage (n + 1) = r.stage n := by
  cases hs : r.steps[n]? with
  | none => exact stage_succ_of_none hs
  | some step =>
      rw [reply?_eq hs, Option.some.injEq] at h
      rw [stage_succ hs, (SharedCaches.act_of_failed h).1]
      rfl

theorem shown?_of_failed (h : r.reply? n = some (.failed failure)) :
    r.shown? n = some (.failed failure, [], (r.stage n).loads) := by
  cases hs : r.steps[n]? with
  | none =>
      rw [reply?, hs] at h
      cases h
  | some step =>
      rw [reply?_eq hs, Option.some.injEq] at h
      rw [shown?, hs, Option.map_some, (SharedCaches.act_of_failed h).1]
      rfl

theorem stage_without_of_le (r : CacheRun) (h : m ≤ n) : (r.without n).stage m = r.stage m := by
  rw [stage, without, List.take_eraseIdx_eq_take_of_le _ _ _ h]
  rfl

/-- From a step on that changes nothing, the run without it is one step ahead. -/
theorem stage_without_of_ge (h : r.stage (n + 1) = r.stage n) (hnm : n ≤ m) :
    (r.without n).stage m = r.stage (m + 1) := by
  induction m, hnm using Nat.le_induction with
  | base => rw [stage_without_of_le r (Nat.le_refl n), h]
  | succ m hnm ih =>
      have hstep : (r.without n).steps[m]? = r.steps[m + 1]? := by
        rw [getElem?_steps_without, if_neg (by omega)]
      cases hs : r.steps[m + 1]? with
      | none => rw [stage_succ_of_none (hstep.trans hs), stage_succ_of_none hs, ih]
      | some step => rw [stage_succ (hstep.trans hs), stage_succ hs, ih]

/-- Leaving out a step that changes nothing does not change what the others show. -/
theorem shown?_without (h : r.stage (n + 1) = r.stage n) (i : Nat) :
    (r.without n).shown? i = if i < n then r.shown? i else r.shown? (i + 1) := by
  by_cases hi : i < n
  · rw [if_pos hi, shown?, shown?, getElem?_steps_without, if_pos hi,
      stage_without_of_le r (Nat.le_of_lt hi)]
  · rw [if_neg hi, shown?, shown?, getElem?_steps_without, if_neg hi,
      stage_without_of_ge h (Nat.le_of_not_lt hi)]

theorem reply?_share_of_cut {k : Fin r.terms.length}
    (h : r.steps[n]? = some (now, .share k tenant)) (hcut : (r.stage n).line.cut = some failure)
    (hu : ¬ r.Unexpired k tenant now n) : r.reply? n = some (.failed failure) := by
  obtain ⟨c, hc, hl, -⟩ := cache_stage r k n
  have hf : c.fresh? now tenant = none := (fresh?_eq_none_iff_not_unexpired hc hl).mpr hu
  rw [reply?_eq h, SharedCaches.act_share_of_cut hc hf hcut]
  rfl

theorem reply?_update_of_cut {k : Fin r.terms.length} {row : TenantShare}
    (h : r.steps[n]? = some (now, .update k row)) (hcut : (r.stage n).line.cut = some failure) :
    r.reply? n = some (.failed failure) := by
  obtain ⟨c, hc, -, -⟩ := cache_stage r k n
  rw [reply?_eq h, SharedCaches.act_update_of_cut hc hcut]
  rfl

/-- A step that fails leaves caches and store as they were, logs nothing, and can be left out of the
run without a change to what the other steps show. While the line to the store is cut, updates fail,
and a share is answered exactly if the cache holds an unexpired entry of the tenant. -/
theorem failed_steps_leave_no_trace (r : CacheRun) :
    (∀ n failure, r.reply? n = some (.failed failure) →
      r.stage (n + 1) = r.stage n ∧
      r.shown? n = some (.failed failure, [], (r.stage n).loads) ∧
      ∀ i, (r.without n).shown? i = if i < n then r.shown? i else r.shown? (i + 1)) ∧
    (∀ n failure, (r.stage n).line.cut = some failure →
      ∀ (k : Fin r.terms.length) now,
        (∀ tenant, r.steps[n]? = some (now, .share k tenant) →
          ((∃ share, r.reply? n = some (.share share)) ↔ r.Unexpired k tenant now n) ∧
          (r.reply? n = some (.failed failure) ↔ ¬ r.Unexpired k tenant now n)) ∧
        ∀ row, r.steps[n]? = some (now, .update k row) →
          r.reply? n = some (.failed failure)) := by
  constructor
  · intro n failure h
    have hstage := stage_succ_of_failed h
    exact ⟨hstage, shown?_of_failed h, shown?_without hstage⟩
  · intro n failure hcut k now
    refine ⟨?_, fun row h => reply?_update_of_cut h hcut⟩
    intro tenant h
    have hshare : (∃ share, r.reply? n = some (.share share)) ↔ r.Unexpired k tenant now n := by
      rw [answered_iff h, hcut, or_iff_right (by simp)]
    refine ⟨hshare, ?_, reply?_share_of_cut h hcut⟩
    intro hfailed hu
    obtain ⟨share, hs⟩ := hshare.mpr hu
    rw [hfailed] at hs
    cases hs

/-- A share is known to the cache when the line is cut, and it is updated after the line is mended.
In between one tenant is served, another is not, and an update fails. -/
def outage : CacheRun where
  terms := [(10, 5)]
  line := ⟨.empty, none⟩
  steps := [(0, .share 0 ⟨7⟩), (1, .cut (some ⟨"down", []⟩)), (2, .share 0 ⟨7⟩),
    (3, .share 0 ⟨8⟩), (4, .update 0 ⟨⟨7⟩, 50⟩), (5, .cut none), (6, .share 0 ⟨7⟩),
    (7, .update 0 ⟨⟨7⟩, 60⟩), (8, .share 0 ⟨7⟩)]

/-- Without the failing update the last two shares are the same, the second one read anew. -/
theorem outage_without_update :
    outage.reply? 4 = some (.failed ⟨"down", []⟩) ∧
      (outage.without 4).shown? 5 = some (.share 5, [], 1) ∧
      (outage.without 4).shown? 7 = some (.share 60, [.shareLoaded ⟨7⟩ 60], 2) ∧
      (¬ outage.Unexpired ⟨0, by decide⟩ ⟨8⟩ 3 3) ∧
      outage.Unexpired ⟨0, by decide⟩ ⟨7⟩ 2 2 := by
  have hfailed : outage.reply? 4 = some (.failed ⟨"down", []⟩) := by decide
  have hquiet := ((failed_steps_leave_no_trace outage).1 4 _ hfailed).2.2
  have hcut := (failed_steps_leave_no_trace outage).2
  refine ⟨hfailed, ?_, ?_, ?_, ?_⟩
  · rw [hquiet]
    decide
  · rw [hquiet]
    decide
  · exact (((hcut 3 ⟨"down", []⟩ rfl ⟨0, by decide⟩ 3).1 ⟨8⟩ rfl).2.mp (by decide))
  · exact (((hcut 2 ⟨"down", []⟩ rfl ⟨0, by decide⟩ 2).1 ⟨7⟩ rfl).1.mp ⟨5, by decide⟩)

end CacheRun

end RetryTrial
