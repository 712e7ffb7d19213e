import RetryTrial.Proofs.Experiment.Step
import RetryTrial.Proofs.LastMember

/-!
# Runs over shared caches

A run starts with empty caches over a store of any contents. Its steps are counted from zero, and
`stage` is the state before a step. `LastLoad` names the step whose load a cache still knows: no
other load of the tenant came after it, and the tenant was not forgotten since. The entries of every
stage are those of the last loads.
-/

namespace RetryTrial

/-- Caches by lifetime and default, the line to their store, and timed actions. -/
structure CacheRun where
  terms : List (Nat × Nat)
  line : Line MemoryShares
  steps : List (Nat × CacheAction)

namespace CacheRun

variable (r : CacheRun)

def start : SharedCaches := ⟨r.terms.map fun t => .new t.1 t.2, r.line⟩

/-- The state before step `n`. -/
def stage (n : Nat) : SharedCaches :=
  (r.steps.take n).foldl (fun s step => (s.act step.1 step.2).value.2) r.start

def reply? (n : Nat) : Option CacheReply :=
  r.steps[n]?.map fun step => ((r.stage n).act step.1 step.2).value.1

/-- Step `n` reads the tenant's share on the cache, and the store is read for it. -/
def Loaded (k : Nat) (tenant : Uuid) (n : Nat) : Prop :=
  ∃ now action, r.steps[n]? = some (now, action) ∧ (r.stage n).Loads now action k tenant

/-- Step `n` forgets the tenant on the cache, or updates its row there with success. -/
def Forgot (k : Nat) (tenant : Uuid) (n : Nat) : Prop :=
  ∃ now action, r.steps[n]? = some (now, action) ∧ (r.stage n).Forgets now action k tenant

/-- Of the steps before `n`, step `j` is the last one to load the tenant's share on the cache, and
none after it forgot the tenant there. -/
structure LastLoad (k : Nat) (tenant : Uuid) (n j : Nat) : Prop where
  before : j < n
  loads : r.Loaded k tenant j
  last : ∀ i, j < i → i < n → ¬ r.Loaded k tenant i
  kept : ∀ i, j < i → i < n → ¬ r.Forgot k tenant i

def Wrote (row : TenantShare) (n : Nat) : Prop :=
  ∃ now action, r.steps[n]? = some (now, action) ∧ (r.stage n).Stores now action row

/-- Of the steps before `n`, step `j` is the last one to write a row of the tenant, and this is the
row that it writes. -/
structure LastWrite (row : TenantShare) (n j : Nat) : Prop where
  before : j < n
  writes : r.Wrote row j
  last : ∀ i, j < i → i < n → ∀ other, r.Wrote other i → other.tenant ≠ row.tenant

/-- No step before `n` writes a row of the tenant. -/
def Unwritten (tenant : Uuid) (n : Nat) : Prop :=
  ∀ i, i < n → ∀ row, r.Wrote row i → row.tenant ≠ tenant

@[simp] theorem stage_zero : r.stage 0 = r.start := rfl

variable {r} {k n i j now lifetime fallback : Nat} {tenant : Uuid} {row : TenantShare}
  {action : CacheAction}

theorem stage_succ (h : r.steps[n]? = some (now, action)) :
    r.stage (n + 1) = ((r.stage n).act now action).value.2 := by
  simp only [stage, List.take_add_one, h, Option.toList_some, List.foldl_append, List.foldl_cons,
    List.foldl_nil]

theorem stage_succ_of_none (h : r.steps[n]? = none) : r.stage (n + 1) = r.stage n := by
  simp only [stage, List.take_add_one, h, Option.toList_none, List.append_nil]

theorem reply?_eq (h : r.steps[n]? = some (now, action)) :
    r.reply? n = some ((r.stage n).act now action).value.1 := by
  rw [reply?, h, Option.map_some]

theorem exists_step_iff {P : Nat → CacheAction → Prop} (h : r.steps[n]? = some (now, action)) :
    (∃ now action, r.steps[n]? = some (now, action) ∧ P now action) ↔ P now action := by
  simp only [h, Option.some.injEq, Prod.mk.injEq]
  constructor
  · rintro ⟨_, _, ⟨rfl, rfl⟩, hp⟩
    exact hp
  · intro hp
    exact ⟨now, action, ⟨rfl, rfl⟩, hp⟩

theorem loaded_iff (h : r.steps[n]? = some (now, action)) :
    r.Loaded k tenant n ↔ (r.stage n).Loads now action k tenant :=
  exists_step_iff h

theorem forgot_iff (h : r.steps[n]? = some (now, action)) :
    r.Forgot k tenant n ↔ (r.stage n).Forgets now action k tenant :=
  exists_step_iff h

theorem wrote_iff (h : r.steps[n]? = some (now, action)) :
    r.Wrote row n ↔ (r.stage n).Stores now action row :=
  exists_step_iff h

theorem not_exists_step {P : Nat → CacheAction → Prop} (h : r.steps[n]? = none) :
    ¬ ∃ now action, r.steps[n]? = some (now, action) ∧ P now action := by
  rintro ⟨now, action, hs, -⟩
  rw [h] at hs
  cases hs

theorem Loaded.exists_step (h : r.Loaded k tenant n) :
    ∃ now, r.steps[n]? = some (now, .share k tenant) := by
  obtain ⟨now, action, hs, rfl, -⟩ := h
  exact ⟨now, hs⟩

theorem Loaded.not_forgot (h : r.Loaded k tenant n) : ¬ r.Forgot k tenant n := by
  obtain ⟨now, action, hs, hl⟩ := h
  rw [forgot_iff hs]
  exact hl.not_forgets

section LastLoad

theorem LastLoad.unique (hi : r.LastLoad k tenant n i) (hj : r.LastLoad k tenant n j) : i = j :=
  eq_of_last_step hi.before hi.loads hi.last hj.before hj.loads hj.last

theorem lastLoad_succ_of_loaded (h : r.Loaded k tenant n) :
    r.LastLoad k tenant (n + 1) j ↔ j = n := by
  have hn : r.LastLoad k tenant (n + 1) n :=
    ⟨Nat.lt_succ_self n, h, fun i hi hin => by omega, fun i hi hin => by omega⟩
  constructor
  · intro hj
    exact hj.unique hn
  · rintro rfl
    exact hn

theorem not_lastLoad_succ_of_forgot (h : r.Forgot k tenant n) :
    ¬ r.LastLoad k tenant (n + 1) j := by
  intro hj
  have hne : j ≠ n := by
    rintro rfl
    exact hj.loads.not_forgot h
  have hlt := hj.before
  exact hj.kept n (by omega) (Nat.lt_succ_self n) h

theorem lastLoad_succ_of_not (hl : ¬ r.Loaded k tenant n) (hg : ¬ r.Forgot k tenant n) :
    r.LastLoad k tenant (n + 1) j ↔ r.LastLoad k tenant n j := by
  constructor
  · intro hj
    have hne : j ≠ n := fun hjn => hl (hjn ▸ hj.loads)
    have hlt := hj.before
    exact ⟨by omega, hj.loads, fun i hji hin => hj.last i hji (by omega),
      fun i hji hin => hj.kept i hji (by omega)⟩
  · intro hj
    exact ⟨Nat.lt_succ_of_lt hj.before, hj.loads, forall_step_succ hj.last hl,
      forall_step_succ hj.kept hg⟩

end LastLoad

section LastWrite

theorem Wrote.lastWrite (h : r.Wrote row n) : r.LastWrite row (n + 1) n :=
  ⟨Nat.lt_succ_self n, h, fun i hni hin => by omega⟩

theorem LastWrite.succ (h : r.LastWrite row n j)
    (hn : ∀ other, r.Wrote other n → other.tenant ≠ row.tenant) : r.LastWrite row (n + 1) j :=
  ⟨Nat.lt_succ_of_lt h.before, h.writes, forall_step_succ h.last hn⟩

theorem Unwritten.succ (h : r.Unwritten tenant n)
    (hn : ∀ row, r.Wrote row n → row.tenant ≠ tenant) : r.Unwritten tenant (n + 1) := by
  intro i hi
  rcases Nat.lt_succ_iff_lt_or_eq.mp hi with hlt | rfl
  · exact h i hlt
  · exact hn

end LastWrite

/-- The store has of a tenant the row that was written last, or what it began with if none was. -/
theorem row?_stage (r : CacheRun) (n : Nat) (tenant : Uuid) :
    (∃ row j, r.LastWrite row n j ∧ row.tenant = tenant ∧
      (r.stage n).row? tenant = some row) ∨
    r.Unwritten tenant n ∧ (r.stage n).row? tenant = r.line.store.rows[tenant]? := by
  induction n with
  | zero => exact Or.inr ⟨fun i hi => absurd hi (Nat.not_lt_zero i), rfl⟩
  | succ n ih =>
      by_cases hw : ∃ row, r.Wrote row n ∧ row.tenant = tenant
      · obtain ⟨row, hw, rfl⟩ := hw
        refine Or.inl ⟨row, n, hw.lastWrite, rfl, ?_⟩
        obtain ⟨now, action, hs, hstores⟩ := hw
        rw [stage_succ hs, SharedCaches.row?_act_of_stores hstores]
      · have hn : ∀ row, r.Wrote row n → row.tenant ≠ tenant := fun row ho ht => hw ⟨row, ho, ht⟩
        have hrow : (r.stage (n + 1)).row? tenant = (r.stage n).row? tenant := by
          cases hs : r.steps[n]? with
          | none => rw [stage_succ_of_none hs]
          | some step =>
              rw [stage_succ hs]
              exact SharedCaches.row?_act_of_not_stores fun row ho =>
                hn row ((wrote_iff hs).mpr ho)
        rw [hrow]
        rcases ih with ⟨row, j, hj, rfl, hrow⟩ | ⟨hu, hrow⟩
        · exact Or.inl ⟨row, j, hj.succ hn, rfl, hrow⟩
        · exact Or.inr ⟨hu.succ hn, hrow⟩

/-- The caches keep their lifetimes, and their defaults up to 100. -/
theorem terms_stage (r : CacheRun) (n : Nat) :
    (r.stage n).terms = r.terms.map fun t => (t.1, min t.2 100) := by
  induction n with
  | zero => simp [SharedCaches.terms, start, ShareCache.new, Function.comp_def]
  | succ n ih =>
      cases hs : r.steps[n]? with
      | none => rw [stage_succ_of_none hs, ih]
      | some step => rw [stage_succ hs, (SharedCaches.changes_act _ _ _).terms_eq, ih]

theorem exists_cache (h : r.terms[k]? = some (lifetime, fallback)) (n : Nat) :
    ∃ c, (r.stage n).caches[k]? = some c ∧ c.lifetime = lifetime ∧
      c.fallback = min fallback 100 := by
  have ht : (r.stage n).terms[k]? = some (lifetime, min fallback 100) := by
    rw [terms_stage, List.getElem?_map, h, Option.map_some]
  rw [SharedCaches.terms, List.getElem?_map, Option.map_eq_some_iff] at ht
  obtain ⟨c, hc, he⟩ := ht
  obtain ⟨hl, hf⟩ := Prod.mk.inj he
  exact ⟨c, hc, hl, hf⟩

theorem cached?_start (r : CacheRun) (k : Nat) (tenant : Uuid) :
    r.start.cached? k tenant = none := by
  rw [SharedCaches.cached?, start, List.getElem?_map]
  cases r.terms[k]? with
  | none => rfl
  | some t => simp [ShareCache.new]

/-- A cache holds for a tenant what its last load has found, with the time of the load. -/
theorem cached?_stage (h : r.terms[k]? = some (lifetime, fallback)) (n : Nat) (tenant : Uuid)
    (e : CachedShare) :
    (r.stage n).cached? k tenant = some e ↔
      ∃ j, r.LastLoad k tenant n j ∧ r.steps[j]? = some (e.loadedAt, .share k tenant) ∧
        e.share = effectiveShare fallback ((r.stage j).row? tenant) := by
  induction n with
  | zero =>
      have hn : ∀ j, ¬ r.LastLoad k tenant 0 j := fun j hj => Nat.not_lt_zero j hj.before
      simp [hn, cached?_start]
  | succ n ih =>
      cases hs : r.steps[n]? with
      | none =>
          rw [stage_succ_of_none hs, ih]
          simp only [lastLoad_succ_of_not (not_exists_step hs) (not_exists_step hs)]
      | some step =>
          obtain ⟨now, action⟩ := step
          obtain ⟨c, hc, -, hf⟩ := exists_cache h n
          rw [stage_succ hs]
          by_cases hl : r.Loaded k tenant n
          · have hstep := (loaded_iff hs).mp hl
            obtain rfl := hstep.1
            rw [SharedCaches.cached?_act_of_loads hc hstep, ShareCache.shareOf_eq hf]
            simp only [lastLoad_succ_of_loaded hl, exists_eq_left, hs]
            obtain ⟨loadedAt, share⟩ := e
            simp [eq_comm]
          · by_cases hg : r.Forgot k tenant n
            · rw [SharedCaches.cached?_act_of_forgets hc ((forgot_iff hs).mp hg)]
              simp [not_lastLoad_succ_of_forgot hg]
            · rw [SharedCaches.cached?_act_of_kept hc (mt (loaded_iff hs).mpr hl)
                (mt (forgot_iff hs).mpr hg), ih]
              simp only [lastLoad_succ_of_not hl hg]

end CacheRun

end RetryTrial
