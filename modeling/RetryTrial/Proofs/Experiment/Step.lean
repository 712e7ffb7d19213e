import RetryTrial.Experiment.Caches
import RetryTrial.Proofs.Experiment.AtomicStore

/-!
# What one action does to the caches

Reading a share serves an entry that is not too old, or else reads the store and enters what it
found there. Updating and forgetting take the tenant's entry out of one cache. No action touches
another entry, nor the row of another tenant.
-/

namespace RetryTrial

/-- The share that a row stands for, or its absence where a default is configured. -/
def effectiveShare (fallback : Nat) (row : Option TenantShare) : Nat :=
  match row with
  | some row => (max 0 (min row.percent.toInt 100)).toNat
  | none => min fallback 100

theorem effectiveShare_le (fallback : Nat) (row : Option TenantShare) :
    effectiveShare fallback row ≤ 100 := by
  unfold effectiveShare
  split <;> omega

namespace ShareCache

variable {c : ShareCache} {now share : Nat} {tenant : Uuid}

theorem shareOf_eq {fallback : Nat} (h : c.fallback = min fallback 100)
    (row : Option TenantShare) : c.shareOf row = effectiveShare fallback row := by
  cases row with
  | none => exact h
  | some row =>
      rw [shareOf, TenantShare.effective, effectiveShare]
      omega

theorem fresh?_eq_some_iff : c.fresh? now tenant = some share ↔
    ∃ e, c.entries[tenant]? = some e ∧ now - e.loadedAt ≤ c.lifetime ∧ e.share = share := by
  unfold fresh?
  cases c.entries[tenant]? with
  | none => simp
  | some e =>
      by_cases he : now - e.loadedAt ≤ c.lifetime
      · simp only [he, if_true, Option.some.injEq, exists_eq_left', true_and]
      · simp only [he, if_false, Option.some.injEq, exists_eq_left', false_and, reduceCtorEq]

theorem fresh?_eq_none_iff : c.fresh? now tenant = none ↔
    ∀ e, c.entries[tenant]? = some e → c.lifetime < now - e.loadedAt := by
  rw [Option.eq_none_iff_forall_ne_some]
  constructor
  · intro h e he
    rw [← Nat.not_le]
    intro hle
    exact h e.share (fresh?_eq_some_iff.mpr ⟨e, he, hle, rfl⟩)
  · intro h share hs
    obtain ⟨e, he, hle, -⟩ := fresh?_eq_some_iff.mp hs
    exact absurd hle (Nat.not_le.mpr (h e he))

end ShareCache

namespace CacheAction

/-- The action reads, updates or forgets this tenant on this cache. -/
def Concerns (k : Nat) (tenant : Uuid) : CacheAction → Prop
  | share i t | forget i t => i = k ∧ t = tenant
  | update i written => i = k ∧ written.tenant = tenant
  | store _ | row _ | cut _ => False

/-- The action may write this tenant's row. -/
def Writes (tenant : Uuid) : CacheAction → Prop
  | update _ written | store written => written.tenant = tenant
  | share .. | forget .. | row _ | cut _ => False

end CacheAction

namespace SharedCaches

def cached? (s : SharedCaches) (k : Nat) (tenant : Uuid) : Option CachedShare :=
  s.caches[k]?.bind fun c => c.entries[tenant]?

def row? (s : SharedCaches) (tenant : Uuid) : Option TenantShare := s.line.store.rows[tenant]?

variable {s : SharedCaches} {now k i share : Nat} {c : ShareCache} {tenant : Uuid}
  {row : TenantShare} {failure : Failure} {action : CacheAction}

theorem cached?_eq (h : s.caches[k]? = some c) (tenant : Uuid) :
    s.cached? k tenant = c.entries[tenant]? := by
  rw [cached?, h, Option.bind_some]

theorem cached?_set (h : s.caches[i]? = some c) (d : ShareCache) (line : Line MemoryShares)
    (k : Nat) (tenant : Uuid) : cached? ⟨s.caches.set i d, line⟩ k tenant =
      if i = k then d.entries[tenant]? else s.cached? k tenant := by
  have hi : i < s.caches.length := (List.getElem?_eq_some_iff.mp h).1
  by_cases hik : i = k
  · subst hik
    simp [cached?, hi]
  · simp [cached?, hik]

theorem cached?_set_of_same (h : s.caches[i]? = some c) (d : ShareCache) (line : Line MemoryShares)
    (hd : i = k → d.entries[tenant]? = c.entries[tenant]?) :
    cached? ⟨s.caches.set i d, line⟩ k tenant = s.cached? k tenant := by
  rw [cached?_set h]
  by_cases hik : i = k
  · rw [if_pos hik, hd hik, ← hik, cached?_eq h]
  · rw [if_neg hik]

theorem set_caches (h : s.caches[k]? = some c) : { s with caches := s.caches.set k c } = s := by
  have hset : s.caches.set k c = s.caches := by
    obtain ⟨hk, rfl⟩ := List.getElem?_eq_some_iff.mp h
    exact List.set_getElem_self hk
  rw [hset]

section Share

theorem value_act_share_of_missing (h : s.caches[k]? = none) (now : Nat) (tenant : Uuid) :
    (s.act now (.share k tenant)).value = (.done, s) := by
  simp [act, h]

theorem value_act_share_of_fresh (h : s.caches[k]? = some c)
    (hf : c.fresh? now tenant = some share) :
    (s.act now (.share k tenant)).value = (.share share, s) := by
  simp [act, h, ShareCache.share_of_fresh hf, set_caches h]

theorem act_share_of_cut (h : s.caches[k]? = some c) (hf : c.fresh? now tenant = none)
    (hcut : s.line.cut = some failure) :
    s.act now (.share k tenant) = pure (.failed failure, s) := by
  have hread : ShareStore.read s.line tenant = pure (.error failure, s.line) :=
    Line.read_of_cut hcut tenant
  have hshare := ShareCache.share_of_error hf (congrArg (·.value.1) hread)
  simp [act, h, hshare, hread, set_caches h]

theorem value_act_share_of_cut (h : s.caches[k]? = some c) (hf : c.fresh? now tenant = none)
    (hcut : s.line.cut = some failure) :
    (s.act now (.share k tenant)).value = (.failed failure, s) :=
  congrArg Traced.value (act_share_of_cut h hf hcut)

theorem value_act_share_of_open (h : s.caches[k]? = some c) (hf : c.fresh? now tenant = none)
    (hcut : s.line.cut = none) :
    (s.act now (.share k tenant)).value =
      (.share (c.shareOf (s.row? tenant)),
        { caches := s.caches.set k (c.remember now tenant (c.shareOf (s.row? tenant)))
          line := { s.line with
            store := { s.line.store with loads := s.line.store.loads + 1 } } }) := by
  have hread : (ShareStore.read s.line tenant).value =
      (.ok (s.row? tenant),
        { s.line with store := { s.line.store with loads := s.line.store.loads + 1 } }) := by
    rw [Line.read_of_open hcut]
    rfl
  have hshare := ShareCache.share_of_row hf (congrArg Prod.fst hread)
  simp [act, h, hshare, hread]

end Share

section Forget

theorem value_act_update_of_missing (h : s.caches[k]? = none) (now : Nat) (row : TenantShare) :
    (s.act now (.update k row)).value = (.done, s) := by
  simp [act, h]

theorem act_update_of_cut (h : s.caches[k]? = some c) (hcut : s.line.cut = some failure)
    (now : Nat) (row : TenantShare) :
    s.act now (.update k row) = pure (.failed failure, s) := by
  simp [act, h, ShareCache.update, Line.write_of_cut hcut, set_caches h]

theorem value_act_update_of_cut (h : s.caches[k]? = some c) (hcut : s.line.cut = some failure)
    (now : Nat) (row : TenantShare) :
    (s.act now (.update k row)).value = (.failed failure, s) :=
  congrArg Traced.value (act_update_of_cut h hcut now row)

theorem value_act_update_of_open (h : s.caches[k]? = some c) (hcut : s.line.cut = none)
    (now : Nat) (row : TenantShare) :
    (s.act now (.update k row)).value =
      (.done,
        { caches := s.caches.set k (c.forget row.tenant)
          line := { s.line with store := s.line.store.write row } }) := by
  have hwrite : (ShareStore.write s.line row).value =
      (.ok (), { s.line with store := s.line.store.write row }) := by
    rw [Line.write_of_open hcut]
    rfl
  simp [act, h, ShareCache.update, hwrite]

theorem value_act_forget_of_missing (h : s.caches[k]? = none) (now : Nat) (tenant : Uuid) :
    (s.act now (.forget k tenant)).value = (.done, s) := by
  simp [act, h]

theorem value_act_forget (h : s.caches[k]? = some c) (now : Nat) (tenant : Uuid) :
    (s.act now (.forget k tenant)).value =
      (.done, { s with caches := s.caches.set k (c.forget tenant) }) := by
  simp [act, h]

end Forget

/-- All that an action can do to the caches and their store. -/
inductive Changes (s : SharedCaches) (now : Nat) : CacheAction → SharedCaches → Prop
  | nothing (action : CacheAction) : Changes s now action s
  | loaded {k : Nat} {c : ShareCache} (tenant : Uuid) (share : Nat) (h : s.caches[k]? = some c) :
      Changes s now (.share k tenant)
        { caches := s.caches.set k (c.remember now tenant share)
          line := { s.line with
            store := { s.line.store with loads := s.line.store.loads + 1 } } }
  | updated {k : Nat} {c : ShareCache} (row : TenantShare) (h : s.caches[k]? = some c) :
      Changes s now (.update k row)
        { caches := s.caches.set k (c.forget row.tenant)
          line := { s.line with store := s.line.store.write row } }
  | forgotten {k : Nat} {c : ShareCache} (tenant : Uuid) (h : s.caches[k]? = some c) :
      Changes s now (.forget k tenant) { s with caches := s.caches.set k (c.forget tenant) }
  | stored (row : TenantShare) :
      Changes s now (.store row) { s with line := { s.line with store := s.line.store.write row } }
  | read (tenant : Uuid) :
      Changes s now (.row tenant)
        { s with
          line := { s.line with
            store := { s.line.store with loads := s.line.store.loads + 1 } } }
  | cut (failure : Option Failure) :
      Changes s now (.cut failure) { s with line := { s.line with cut := failure } }

theorem changes_act (s : SharedCaches) (now : Nat) (action : CacheAction) :
    Changes s now action (s.act now action).value.2 := by
  cases action with
  | share k tenant =>
      cases h : s.caches[k]? with
      | none =>
          rw [value_act_share_of_missing h]
          exact .nothing _
      | some c =>
          cases hf : c.fresh? now tenant with
          | some share =>
              rw [value_act_share_of_fresh h hf]
              exact .nothing _
          | none =>
              cases hcut : s.line.cut with
              | some failure =>
                  rw [value_act_share_of_cut h hf hcut]
                  exact .nothing _
              | none =>
                  rw [value_act_share_of_open h hf hcut]
                  exact .loaded tenant _ h
  | update k row =>
      cases h : s.caches[k]? with
      | none =>
          rw [value_act_update_of_missing h]
          exact .nothing _
      | some c =>
          cases hcut : s.line.cut with
          | some failure =>
              rw [value_act_update_of_cut h hcut]
              exact .nothing _
          | none =>
              rw [value_act_update_of_open h hcut]
              exact .updated row h
  | forget k tenant =>
      cases h : s.caches[k]? with
      | none =>
          rw [value_act_forget_of_missing h]
          exact .nothing _
      | some c =>
          rw [value_act_forget h]
          exact .forgotten tenant h
  | store row => exact .stored row
  | row tenant => exact .read tenant
  | cut failure => exact .cut failure

namespace Changes

variable {after : SharedCaches}

/-- An action that does not concern an entry keeps it. -/
theorem cached?_of_not_concerns (hc : Changes s now action after) (h : ¬ action.Concerns k tenant) :
    after.cached? k tenant = s.cached? k tenant := by
  cases hc with
  | nothing | stored | read | cut => rfl
  | @loaded i c t share hi =>
      refine cached?_set_of_same hi _ _ fun hik => ?_
      have ht : t ≠ tenant := fun ht => h ⟨hik, ht⟩
      simp [ShareCache.remember, Std.ExtTreeMap.getElem?_insert, ht]
  | @updated i c written hi =>
      refine cached?_set_of_same hi _ _ fun hik => ?_
      have ht : written.tenant ≠ tenant := fun ht => h ⟨hik, ht⟩
      simp [ShareCache.forget, Std.ExtTreeMap.getElem?_erase, ht]
  | @forgotten i c t hi =>
      refine cached?_set_of_same hi _ _ fun hik => ?_
      have ht : t ≠ tenant := fun ht => h ⟨hik, ht⟩
      simp [ShareCache.forget, Std.ExtTreeMap.getElem?_erase, ht]

theorem row?_of_not_writes (hc : Changes s now action after) (h : ¬ action.Writes tenant) :
    after.row? tenant = s.row? tenant := by
  cases hc with
  | nothing | loaded | forgotten | read | cut => rfl
  | updated written _ | stored written =>
      have ht : written.tenant ≠ tenant := h
      simp [row?, MemoryShares.write, Std.ExtTreeMap.getElem?_insert, ht]

theorem cut_eq (hc : Changes s now action after) (h : ∀ failure, action ≠ .cut failure) :
    after.line.cut = s.line.cut := by
  cases hc with
  | nothing | loaded | updated | forgotten | stored | read => rfl
  | cut failure => exact absurd rfl (h failure)

end Changes

/-- The action reads the tenant's share on the cache, and the store is read for it. -/
def Loads (s : SharedCaches) (now : Nat) (action : CacheAction) (k : Nat) (tenant : Uuid) : Prop :=
  action = .share k tenant ∧ (s.act now action).value.2.loads = s.loads + 1

/-- The action forgets the tenant on the cache, or updates its row there with success. -/
def Forgets (s : SharedCaches) (now : Nat) (action : CacheAction) (k : Nat) (tenant : Uuid) :
    Prop :=
  action = .forget k tenant ∨
    ∃ row, action = .update k row ∧ row.tenant = tenant ∧ (s.act now action).value.1 = .done

/-- The action writes this row: past the caches, or by an update on one of them with success. -/
def Stores (s : SharedCaches) (now : Nat) (action : CacheAction) (row : TenantShare) : Prop :=
  action = .store row ∨
    ∃ k, k < s.caches.length ∧ action = .update k row ∧ (s.act now action).value.1 = .done

theorem reply_update_iff (h : s.caches[k]? = some c) :
    (s.act now (.update k row)).value.1 = .done ↔ s.line.cut = none := by
  cases hcut : s.line.cut with
  | some failure => simp [value_act_update_of_cut h hcut]
  | none => simp [value_act_update_of_open h hcut]

theorem row?_act_of_stores (h : s.Stores now action row) :
    (s.act now action).value.2.row? row.tenant = some row := by
  obtain rfl | ⟨k, hk, rfl, hdone⟩ := h
  · exact Std.ExtTreeMap.getElem?_insert_self
  · have hc := List.getElem?_eq_getElem hk
    rw [value_act_update_of_open hc ((reply_update_iff hc).mp hdone)]
    exact Std.ExtTreeMap.getElem?_insert_self

theorem row?_act_of_not_stores (h : ∀ row, s.Stores now action row → row.tenant ≠ tenant) :
    (s.act now action).value.2.row? tenant = s.row? tenant := by
  by_cases hw : action.Writes tenant
  · cases action with
    | update i row =>
        cases hc : s.caches[i]? with
        | none => rw [value_act_update_of_missing hc]
        | some c =>
            cases hcut : s.line.cut with
            | some failure => rw [value_act_update_of_cut hc hcut]
            | none =>
                refine absurd hw (h row (Or.inr ⟨i, ?_, rfl, (reply_update_iff hc).mpr hcut⟩))
                exact (List.getElem?_eq_some_iff.mp hc).1
    | store row => exact absurd hw (h row (Or.inl rfl))
    | share i t | forget i t | row t | cut failure => exact hw.elim
  · exact (changes_act s now action).row?_of_not_writes hw

theorem loads_share_iff (h : s.caches[k]? = some c) :
    s.Loads now (.share k tenant) k tenant ↔ s.line.cut = none ∧ c.fresh? now tenant = none := by
  cases hf : c.fresh? now tenant with
  | some share => simp [Loads, value_act_share_of_fresh h hf]
  | none =>
      cases hcut : s.line.cut with
      | some failure => simp [Loads, value_act_share_of_cut h hf hcut]
      | none => simp [Loads, value_act_share_of_open h hf hcut, loads]

theorem act_share_of_not_loads (hn : ¬ s.Loads now (.share k tenant) k tenant) :
    (s.act now (.share k tenant)).value.2 = s := by
  cases h : s.caches[k]? with
  | none => rw [value_act_share_of_missing h]
  | some c =>
      cases hf : c.fresh? now tenant with
      | some share => rw [value_act_share_of_fresh h hf]
      | none =>
          cases hcut : s.line.cut with
          | some failure => rw [value_act_share_of_cut h hf hcut]
          | none => exact absurd ((loads_share_iff h).mpr ⟨hcut, hf⟩) hn

theorem Loads.not_forgets (hl : s.Loads now action k tenant) : ¬ s.Forgets now action k tenant := by
  obtain ⟨rfl, -⟩ := hl
  rintro (h | ⟨row, h, -⟩) <;> cases h

theorem cached?_act_of_loads (h : s.caches[k]? = some c) (hl : s.Loads now action k tenant) :
    (s.act now action).value.2.cached? k tenant = some ⟨now, c.shareOf (s.row? tenant)⟩ := by
  obtain rfl := hl.1
  obtain ⟨hcut, hf⟩ := (loads_share_iff h).mp hl
  rw [value_act_share_of_open h hf hcut, cached?_set h, if_pos rfl]
  exact Std.ExtTreeMap.getElem?_insert_self

theorem cached?_act_of_forgets (h : s.caches[k]? = some c) (hg : s.Forgets now action k tenant) :
    (s.act now action).value.2.cached? k tenant = none := by
  obtain rfl | ⟨row, rfl, rfl, hdone⟩ := hg
  · rw [value_act_forget h, cached?_set h, if_pos rfl]
    exact Std.ExtTreeMap.getElem?_erase_self
  · rw [value_act_update_of_open h ((reply_update_iff h).mp hdone), cached?_set h, if_pos rfl]
    exact Std.ExtTreeMap.getElem?_erase_self

/-- Nothing but a load or a forget changes an entry. -/
theorem cached?_act_of_kept (h : s.caches[k]? = some c) (hl : ¬ s.Loads now action k tenant)
    (hg : ¬ s.Forgets now action k tenant) :
    (s.act now action).value.2.cached? k tenant = s.cached? k tenant := by
  by_cases hc : action.Concerns k tenant
  · cases action with
    | share i t =>
        obtain ⟨rfl, rfl⟩ := hc
        rw [act_share_of_not_loads hl]
    | update i row =>
        obtain ⟨rfl, rfl⟩ := hc
        cases hcut : s.line.cut with
        | some failure => rw [value_act_update_of_cut h hcut]
        | none => exact absurd (Or.inr ⟨row, rfl, rfl, (reply_update_iff h).mpr hcut⟩) hg
    | forget i t =>
        obtain ⟨rfl, rfl⟩ := hc
        exact absurd (Or.inl rfl) hg
    | store row | row t | cut failure => exact hc.elim
  · exact (changes_act s now action).cached?_of_not_concerns hc

/-- A share is answered from the entry while it is not too old, and as of the store else. -/
theorem reply_share_iff (h : s.caches[k]? = some c) :
    (s.act now (.share k tenant)).value.1 = .share share ↔
      c.fresh? now tenant = some share ∨
        s.Loads now (.share k tenant) k tenant ∧ share = c.shareOf (s.row? tenant) := by
  rw [loads_share_iff h]
  cases hf : c.fresh? now tenant with
  | some fresh => simp [value_act_share_of_fresh h hf]
  | none =>
      cases hcut : s.line.cut with
      | some failure => simp [value_act_share_of_cut h hf hcut]
      | none => simp [value_act_share_of_open h hf hcut, eq_comm]

/-- The answer depends on the entry, the tenant's row and the line alone. -/
theorem reply_share_congr {s' : SharedCaches} {c' : ShareCache} (h : s.caches[k]? = some c)
    (h' : s'.caches[k]? = some c') (hl : c'.lifetime = c.lifetime) (hd : c'.fallback = c.fallback)
    (he : s'.cached? k tenant = s.cached? k tenant) (hr : s'.row? tenant = s.row? tenant)
    (hcut : s'.line.cut = s.line.cut) :
    (s'.act now (.share k tenant)).value.1 = (s.act now (.share k tenant)).value.1 := by
  have hf : c'.fresh? now tenant = c.fresh? now tenant := by
    rw [cached?_eq h, cached?_eq h'] at he
    simp only [ShareCache.fresh?, he, hl]
  have hs : c'.shareOf (s'.row? tenant) = c.shareOf (s.row? tenant) := by
    simp only [ShareCache.shareOf, hr, hd]
  cases hc : c.fresh? now tenant with
  | some share => rw [value_act_share_of_fresh h hc, value_act_share_of_fresh h' (hf.trans hc)]
  | none =>
      cases hline : s.line.cut with
      | some failure =>
          rw [value_act_share_of_cut h hc hline,
            value_act_share_of_cut h' (hf.trans hc) (hcut.trans hline)]
      | none =>
          rw [value_act_share_of_open h hc hline,
            value_act_share_of_open h' (hf.trans hc) (hcut.trans hline), hs]

def terms (s : SharedCaches) : List (Nat × Nat) := s.caches.map fun c => (c.lifetime, c.fallback)

theorem terms_set (h : s.caches[k]? = some c) (d : ShareCache) (line : Line MemoryShares)
    (hl : d.lifetime = c.lifetime) (hf : d.fallback = c.fallback) :
    terms ⟨s.caches.set k d, line⟩ = s.terms := by
  obtain ⟨hk, rfl⟩ := List.getElem?_eq_some_iff.mp h
  apply List.ext_getElem
  · simp [terms]
  · intro i hi hi'
    by_cases hik : k = i
    · subst hik
      simp [terms, hl, hf]
    · simp [terms, hik]

theorem Changes.terms_eq {after : SharedCaches} (hc : Changes s now action after) :
    after.terms = s.terms := by
  cases hc with
  | nothing | stored | read | cut => rfl
  | loaded _ _ h | updated _ h | forgotten _ h => exact terms_set h _ _ rfl rfl

end SharedCaches

end RetryTrial
