import RetryTrial.Proofs.Experiment.History

/-!
# Cached shares refine the store

Whatever several caches over one store are asked and told, and whatever is written to the store
behind their backs, a share they answer is the one in effect when the cache last loaded it. The
store is read for it exactly if the cache has no entry that is young enough. Hence entries that
never expire cost one read between two changes made through the cache, and entries that have always
expired cost one read each and are never out of date. What is in effect is what was written last.
-/

namespace RetryTrial.CacheRun

variable (r : CacheRun) (k : Fin r.terms.length) (tenant : Uuid)

def lifetime : Nat := (r.terms.get k).1

/-- The tenant's share in effect before step `n`, by the store and the default of the cache. -/
def effective (n : Nat) : Nat :=
  effectiveShare (r.terms.get k).2 ((r.stage n).row? tenant)

/-- Before step `n` the cache holds an entry that at this time is no older than its lifetime. -/
def Unexpired (now n : Nat) : Prop :=
  ∃ e, (r.stage n).cached? k tenant = some e ∧ now - e.loadedAt ≤ r.lifetime k

/-- Whenever the tenant's share is read on the cache, an entry held there is unexpired. -/
def NeverExpires : Prop :=
  ∀ n now e, r.steps[n]? = some (now, .share k tenant) →
    (r.stage n).cached? k tenant = some e → now - e.loadedAt ≤ r.lifetime k

/-- Whenever the tenant's share is read on the cache, an entry held there has expired. -/
def AlwaysExpired : Prop :=
  ∀ n now e, r.steps[n]? = some (now, .share k tenant) →
    (r.stage n).cached? k tenant = some e → r.lifetime k < now - e.loadedAt

variable {r k tenant} {n i j now share : Nat} {action : CacheAction}

theorem cache_stage (r : CacheRun) (k : Fin r.terms.length) (n : Nat) :
    ∃ c, (r.stage n).caches[k.val]? = some c ∧ c.lifetime = r.lifetime k ∧
      c.fallback = min (r.terms.get k).2 100 :=
  exists_cache (List.getElem?_eq_getElem k.isLt) n

theorem fresh?_eq_none_iff_not_unexpired {c : ShareCache}
    (hc : (r.stage n).caches[k.val]? = some c) (hl : c.lifetime = r.lifetime k) :
    c.fresh? now tenant = none ↔ ¬ r.Unexpired k tenant now n := by
  simp only [Unexpired, SharedCaches.cached?_eq hc, ← hl, ShareCache.fresh?_eq_none_iff, not_exists,
    not_and, Nat.not_le]

theorem cached?_stage_iff (e : CachedShare) : (r.stage n).cached? k tenant = some e ↔
    ∃ j, r.LastLoad k tenant n j ∧ r.steps[j]? = some (e.loadedAt, .share k tenant) ∧
      e.share = r.effective k tenant j :=
  cached?_stage (List.getElem?_eq_getElem k.isLt) n tenant e

theorem unexpired_iff : r.Unexpired k tenant now n ↔
    ∃ j loadedAt, r.LastLoad k tenant n j ∧ r.steps[j]? = some (loadedAt, .share k tenant) ∧
      now - loadedAt ≤ r.lifetime k := by
  constructor
  · rintro ⟨e, he, hage⟩
    obtain ⟨j, hj, hs, -⟩ := (cached?_stage_iff e).mp he
    exact ⟨j, e.loadedAt, hj, hs, hage⟩
  · rintro ⟨j, loadedAt, hj, hs, hage⟩
    exact ⟨⟨loadedAt, r.effective k tenant j⟩, (cached?_stage_iff _).mpr ⟨j, hj, hs, rfl⟩, hage⟩

theorem exists_step_of_cached {e : CachedShare} (he : (r.stage n).cached? k tenant = some e) :
    ∃ j, j < n ∧ r.steps[j]? = some (e.loadedAt, .share k tenant) := by
  obtain ⟨j, hj, hs, -⟩ := (cached?_stage_iff e).mp he
  exact ⟨j, hj.before, hs⟩

theorem age_of_pairwise {P : Nat → Prop} {e : CachedShare}
    (h : r.steps.Pairwise fun a b => P (b.1 - a.1)) (hn : r.steps[n]? = some (now, action))
    (he : (r.stage n).cached? k tenant = some e) : P (now - e.loadedAt) := by
  obtain ⟨j, hjn, hj⟩ := exists_step_of_cached he
  obtain ⟨hjlen, hj⟩ := List.getElem?_eq_some_iff.mp hj
  obtain ⟨hnlen, hn⟩ := List.getElem?_eq_some_iff.mp hn
  have hage := List.pairwise_iff_getElem.mp h j n hjlen hnlen hjn
  rwa [hj, hn] at hage

theorem neverExpires_of_pairwise (h : r.steps.Pairwise fun a b => b.1 - a.1 ≤ r.lifetime k)
    (tenant : Uuid) : r.NeverExpires k tenant :=
  fun _ _ _ hn he => age_of_pairwise (P := (· ≤ r.lifetime k)) h hn he

theorem alwaysExpired_of_pairwise (h : r.steps.Pairwise fun a b => r.lifetime k < b.1 - a.1)
    (tenant : Uuid) : r.AlwaysExpired k tenant :=
  fun _ _ _ hn he => age_of_pairwise (P := (r.lifetime k < ·)) h hn he

/-- The store is read exactly if it can be reached and no unexpired entry is held. -/
theorem loaded_iff_open (h : r.steps[n]? = some (now, .share k tenant)) :
    r.Loaded k tenant n ↔ (r.stage n).line.cut = none ∧ ¬ r.Unexpired k tenant now n := by
  obtain ⟨c, hc, hl, -⟩ := cache_stage r k n
  rw [loaded_iff h, SharedCaches.loads_share_iff hc, fresh?_eq_none_iff_not_unexpired hc hl]

theorem stage_succ_of_not_loaded (h : r.steps[n]? = some (now, .share k tenant))
    (hn : ¬ r.Loaded k tenant n) : r.stage (n + 1) = r.stage n := by
  rw [loaded_iff h] at hn
  rw [stage_succ h, SharedCaches.act_share_of_not_loads hn]

theorem answered_iff (h : r.steps[n]? = some (now, .share k tenant)) :
    (∃ share, r.reply? n = some (.share share)) ↔
      (r.stage n).line.cut = none ∨ r.Unexpired k tenant now n := by
  obtain ⟨c, hc, hl, -⟩ := cache_stage r k n
  have hu : c.fresh? now tenant = none ↔ ¬ r.Unexpired k tenant now n :=
    fresh?_eq_none_iff_not_unexpired hc hl
  simp only [reply?_eq h, Option.some.injEq, SharedCaches.reply_share_iff hc,
    SharedCaches.loads_share_iff hc]
  cases hf : c.fresh? now tenant with
  | some share =>
      rw [hf] at hu
      have hheld : r.Unexpired k tenant now n := Classical.not_not.mp (mt hu.mpr nofun)
      simp [hheld]
  | none => simp [hu.mp hf]

theorem cached?_succ_of_answered (h : r.steps[n]? = some (now, .share k tenant))
    (hr : r.reply? n = some (.share share)) :
    ∃ e, (r.stage (n + 1)).cached? k tenant = some e ∧ e.share = share := by
  obtain ⟨c, hc, -, -⟩ := cache_stage r k n
  rw [reply?_eq h, Option.some.injEq, SharedCaches.reply_share_iff hc] at hr
  rcases hr with hf | ⟨hl, rfl⟩
  · obtain ⟨e, he, -, hshare⟩ := ShareCache.fresh?_eq_some_iff.mp hf
    rw [stage_succ h, SharedCaches.value_act_share_of_fresh hc hf]
    exact ⟨e, (SharedCaches.cached?_eq hc tenant).trans he, hshare⟩
  · rw [stage_succ h]
    exact ⟨_, SharedCaches.cached?_act_of_loads hc hl, rfl⟩

theorem share_of_last_load (h : r.steps[n]? = some (now, .share k tenant))
    (hr : r.reply? n = some (.share share)) :
    ∃ j, r.LastLoad k tenant (n + 1) j ∧ share = r.effective k tenant j := by
  obtain ⟨e, he, rfl⟩ := cached?_succ_of_answered h hr
  obtain ⟨j, hj, -, hshare⟩ := (cached?_stage_iff e).mp he
  exact ⟨j, hj, hshare⟩

theorem exists_lastLoad (hi : r.Loaded k tenant i) (hin : i < n)
    (hkept : ∀ m, i < m → m < n → ¬ r.Forgot k tenant m) : ∃ j, r.LastLoad k tenant n j := by
  induction n with
  | zero => exact absurd hin (Nat.not_lt_zero i)
  | succ n ih =>
      by_cases hn : r.Loaded k tenant n
      · exact ⟨n, (lastLoad_succ_of_loaded hn).mpr rfl⟩
      · have hne : i ≠ n := fun h => hn (h ▸ hi)
        have hlt : i < n := by omega
        obtain ⟨j, hj⟩ := ih hlt fun m him hmn => hkept m him (Nat.lt_succ_of_lt hmn)
        exact ⟨j, (lastLoad_succ_of_not hn (hkept n hlt (Nat.lt_succ_self n))).mpr hj⟩

/-- Entries that never expire are loaded again only after they were forgotten. -/
theorem exists_forgot_between (hnever : r.NeverExpires k tenant) (hij : i < j)
    (hi : r.Loaded k tenant i) (hj : r.Loaded k tenant j) :
    ∃ m, i < m ∧ m < j ∧ r.Forgot k tenant m := by
  by_cases hm : ∃ m, i < m ∧ m < j ∧ r.Forgot k tenant m
  · exact hm
  · obtain ⟨now, hs⟩ := hj.exists_step
    obtain ⟨l, hl⟩ := exists_lastLoad hi hij fun m him hmj hg => hm ⟨m, him, hmj, hg⟩
    obtain ⟨loadedAt, hls⟩ := hl.loads.exists_step
    have he := (cached?_stage_iff ⟨loadedAt, r.effective k tenant l⟩).mpr ⟨l, hl, hls, rfl⟩
    exact absurd ⟨_, he, hnever j now _ hs he⟩ ((loaded_iff_open hs).mp hj).2

theorem share_of_always_expired (halways : r.AlwaysExpired k tenant)
    (h : r.steps[n]? = some (now, .share k tenant)) (hr : r.reply? n = some (.share share)) :
    share = r.effective k tenant n := by
  have hexpired : ¬ r.Unexpired k tenant now n := by
    rintro ⟨e, he, hle⟩
    have hlt := halways n now e h he
    omega
  have hopen : (r.stage n).line.cut = none :=
    ((answered_iff h).mp ⟨share, hr⟩).resolve_right hexpired
  obtain ⟨j, hj, hshare⟩ := share_of_last_load h hr
  rw [lastLoad_succ_of_loaded ((loaded_iff_open h).mpr ⟨hopen, hexpired⟩)] at hj
  exact hj ▸ hshare

theorem row?_succ_of_not_writes (h : r.steps[n]? = some (now, action))
    (hw : ¬ action.Writes tenant) : (r.stage (n + 1)).row? tenant = (r.stage n).row? tenant := by
  rw [stage_succ h]
  exact (SharedCaches.changes_act _ _ _).row?_of_not_writes hw

theorem cached?_succ_of_not_concerns (h : r.steps[n]? = some (now, action))
    (hc : ¬ action.Concerns k tenant) :
    (r.stage (n + 1)).cached? k tenant = (r.stage n).cached? k tenant := by
  rw [stage_succ h]
  exact (SharedCaches.changes_act _ _ _).cached?_of_not_concerns hc

theorem answer_succ_of_frame (h : r.steps[n]? = some (now, action))
    (hw : ¬ action.Writes tenant) (hc : ¬ action.Concerns k tenant)
    (hcut : ∀ failure, action ≠ .cut failure) (later : Nat) :
    ((r.stage (n + 1)).act later (.share k tenant)).value.1 =
      ((r.stage n).act later (.share k tenant)).value.1 := by
  obtain ⟨c, hcache, hl, hd⟩ := cache_stage r k n
  obtain ⟨c', hcache', hl', hd'⟩ := cache_stage r k (n + 1)
  have hline : (r.stage (n + 1)).line.cut = (r.stage n).line.cut := by
    rw [stage_succ h]
    exact (SharedCaches.changes_act _ _ _).cut_eq hcut
  exact SharedCaches.reply_share_congr hcache hcache' (hl'.trans hl.symm) (hd'.trans hd.symm)
    (cached?_succ_of_not_concerns h hc) (row?_succ_of_not_writes h hw) hline

theorem row?_succ_of_store {row : TenantShare} (h : r.steps[n]? = some (now, .store row)) :
    (r.stage (n + 1)).row? row.tenant = some row := by
  rw [stage_succ h]
  exact SharedCaches.row?_act_of_stores (Or.inl rfl)

theorem updated_iff_open {row : TenantShare} (h : r.steps[n]? = some (now, .update k row)) :
    r.reply? n = some .done ↔ (r.stage n).line.cut = none := by
  obtain ⟨c, hc, -, -⟩ := cache_stage r k n
  rw [reply?_eq h, Option.some.injEq, SharedCaches.reply_update_iff hc]

theorem row?_succ_of_update {row : TenantShare} (h : r.steps[n]? = some (now, .update k row))
    (hdone : r.reply? n = some .done) : (r.stage (n + 1)).row? row.tenant = some row := by
  obtain ⟨c, hc, -, -⟩ := cache_stage r k n
  rw [reply?_eq h, Option.some.injEq] at hdone
  rw [stage_succ h]
  exact SharedCaches.row?_act_of_stores
    (Or.inr ⟨k, (List.getElem?_eq_some_iff.mp hc).1, rfl, hdone⟩)

/-- Every share that a cache answers was in effect at its last load of the tenant, which no
forgetting followed. The store is read exactly if it can be reached and no unexpired entry is held.
Entries that never expire are read once between two forgettings, and entries that have always
expired are never out of date. No step changes an entry or an answer of another tenant, nor an entry
of another cache. A row is stored as it is written, past the caches or by an update, which succeeds
exactly if the store can be reached; the row of a tenant is the one that was written last. An entry
is unexpired while its load is no longer ago than the cache's lifetime. -/
theorem cached_shares_refine_store (r : CacheRun) (k : Fin r.terms.length) (tenant : Uuid) :
    (∀ n now share, r.steps[n]? = some (now, .share k tenant) →
      r.reply? n = some (.share share) →
      share ≤ 100 ∧ ∃ j, r.LastLoad k tenant (n + 1) j ∧ share = r.effective k tenant j) ∧
    (∀ n now, r.steps[n]? = some (now, .share k tenant) →
      (r.Loaded k tenant n ↔
        (r.stage n).line.cut = none ∧ ¬ r.Unexpired k tenant now n) ∧
      (r.Loaded k tenant n ∨ r.stage (n + 1) = r.stage n) ∧
      ((∃ share, r.reply? n = some (.share share)) ↔
        (r.stage n).line.cut = none ∨ r.Unexpired k tenant now n)) ∧
    (r.NeverExpires k tenant → ∀ i j, i < j → r.Loaded k tenant i → r.Loaded k tenant j →
      ∃ m, i < m ∧ m < j ∧ r.Forgot k tenant m) ∧
    (r.AlwaysExpired k tenant → ∀ n now share, r.steps[n]? = some (now, .share k tenant) →
      r.reply? n = some (.share share) → share = r.effective k tenant n) ∧
    (∀ n now action, r.steps[n]? = some (now, action) →
      (¬ action.Writes tenant → (r.stage (n + 1)).row? tenant = (r.stage n).row? tenant) ∧
      (¬ action.Concerns k tenant →
        (r.stage (n + 1)).cached? k tenant = (r.stage n).cached? k tenant) ∧
      (¬ action.Writes tenant → ¬ action.Concerns k tenant → (∀ failure, action ≠ .cut failure) →
        ∀ later, ((r.stage (n + 1)).act later (.share k tenant)).value.1 =
          ((r.stage n).act later (.share k tenant)).value.1)) ∧
    (∀ n now row, r.steps[n]? = some (now, .store row) →
      (r.stage (n + 1)).row? row.tenant = some row) ∧
    (∀ n now row, r.steps[n]? = some (now, .update k row) →
      (r.reply? n = some .done ↔ (r.stage n).line.cut = none) ∧
      (r.reply? n = some .done → (r.stage (n + 1)).row? row.tenant = some row)) ∧
    (∀ n, (∃ row j, r.LastWrite row n j ∧ row.tenant = tenant ∧
        (r.stage n).row? tenant = some row) ∨
      r.Unwritten tenant n ∧ (r.stage n).row? tenant = r.line.store.rows[tenant]?) ∧
    (∀ n now, r.Unexpired k tenant now n ↔
      ∃ j loadedAt, r.LastLoad k tenant n j ∧ r.steps[j]? = some (loadedAt, .share k tenant) ∧
        now - loadedAt ≤ r.lifetime k) := by
  refine ⟨?_, ?_, ?_, ?_, ?_, ?_, ?_, ?_, ?_⟩
  · intro n now share h hr
    obtain ⟨j, hj, rfl⟩ := share_of_last_load h hr
    exact ⟨effectiveShare_le _ _, j, hj, rfl⟩
  · intro n now h
    refine ⟨loaded_iff_open h, ?_, answered_iff h⟩
    by_cases hl : r.Loaded k tenant n
    · exact Or.inl hl
    · exact Or.inr (stage_succ_of_not_loaded h hl)
  · intro hnever i j hij hi hj
    exact exists_forgot_between hnever hij hi hj
  · intro halways n now share h hr
    exact share_of_always_expired halways h hr
  · intro n now action h
    exact ⟨row?_succ_of_not_writes h, cached?_succ_of_not_concerns h, answer_succ_of_frame h⟩
  · intro n now row h
    exact row?_succ_of_store h
  · intro n now row h
    exact ⟨updated_iff_open h, row?_succ_of_update h⟩
  · intro n
    exact row?_stage r n tenant
  · intro n now
    exact unexpired_iff

/-- Two caches, one with a long and one with no lifetime, while a row is written behind them and
then updated through the first one. -/
def lateWrites : CacheRun where
  terms := [(10, 5), (0, 200)]
  line := ⟨.empty, none⟩
  steps := [(0, .share 0 ⟨7⟩), (1, .store ⟨⟨7⟩, 30⟩), (2, .share 0 ⟨7⟩), (3, .share 1 ⟨7⟩),
    (4, .update 0 ⟨⟨7⟩, 60⟩), (5, .share 0 ⟨7⟩), (6, .share 1 ⟨7⟩)]

/-- Behind its back the first cache still answers its default and the second one the row. The update
is seen by both at once. -/
theorem late_writes_seen_after_expiry :
    lateWrites.reply? 2 = some (.share 5) ∧ lateWrites.reply? 3 = some (.share 30) ∧
    lateWrites.reply? 5 = some (.share 60) ∧ lateWrites.reply? 6 = some (.share 60) ∧
    (∃ j, lateWrites.LastLoad 0 ⟨7⟩ 3 j ∧ 5 = lateWrites.effective ⟨0, by decide⟩ ⟨7⟩ j) ∧
    (∀ i j, i < j → lateWrites.Loaded 0 ⟨7⟩ i → lateWrites.Loaded 0 ⟨7⟩ j →
      ∃ m, i < m ∧ m < j ∧ lateWrites.Forgot 0 ⟨7⟩ m) ∧
    30 = lateWrites.effective ⟨1, by decide⟩ ⟨7⟩ 3 ∧
    (lateWrites.stage 2).row? ⟨7⟩ = some ⟨⟨7⟩, 30⟩ ∧
    (lateWrites.stage 5).row? ⟨7⟩ = some ⟨⟨7⟩, 60⟩ := by
  have hfirst := cached_shares_refine_store lateWrites ⟨0, by decide⟩ ⟨7⟩
  have hsecond := cached_shares_refine_store lateWrites ⟨1, by decide⟩ ⟨7⟩
  have hnever : lateWrites.NeverExpires ⟨0, by decide⟩ ⟨7⟩ :=
    neverExpires_of_pairwise (by decide) ⟨7⟩
  have halways : lateWrites.AlwaysExpired ⟨1, by decide⟩ ⟨7⟩ :=
    alwaysExpired_of_pairwise (by decide) ⟨7⟩
  have hstale : lateWrites.reply? 2 = some (.share 5) := by decide
  have hrow : lateWrites.reply? 3 = some (.share 30) := by decide
  refine ⟨hstale, hrow, by decide, by decide, (hfirst.1 2 2 5 rfl hstale).2, hfirst.2.2.1 hnever,
    hsecond.2.2.2.1 halways 3 3 30 rfl hrow, ?_, ?_⟩
  · exact hfirst.2.2.2.2.2.1 1 1 ⟨⟨7⟩, 30⟩ rfl
  · exact (hfirst.2.2.2.2.2.2.1 4 4 ⟨⟨7⟩, 60⟩ rfl).2 (by decide)

end RetryTrial.CacheRun
