import RetryTrial.Settings
import RetryTrial.Proofs.Experiment.Refinement
import RetryTrial.Proofs.Text.Numeral

/-!
# The default share of a deployment

A cache answers its default for every tenant that has no row, whatever happens to the rows and
entries of others. The default is configured as a number that has to fit into a byte. Up to there it
is clamped to 100; a larger number cannot be read, and the default falls back to 0.
-/

namespace RetryTrial

namespace SharedCaches

variable {s after : SharedCaches} {now : Nat} {action : CacheAction} {tenant : Uuid}

theorem Changes.row?_eq_none (hc : Changes s now action after) (h : after.row? tenant = none) :
    s.row? tenant = none := by
  by_cases hw : action.Writes tenant
  · cases hc with
    | nothing | loaded | forgotten | read | cut => exact h
    | updated written _ | stored written =>
        obtain rfl : written.tenant = tenant := hw
        simp [row?, MemoryShares.write] at h
  · rwa [hc.row?_of_not_writes hw] at h

end SharedCaches

namespace CacheRun

variable {r : CacheRun} {k : Fin r.terms.length} {tenant : Uuid} {i n now share : Nat}

theorem row?_eq_none_of_le (hin : i ≤ n) (h : (r.stage n).row? tenant = none) :
    (r.stage i).row? tenant = none := by
  induction n, hin using Nat.le_induction with
  | base => exact h
  | succ n _ ih =>
      apply ih
      cases hs : r.steps[n]? with
      | none => rwa [stage_succ_of_none hs] at h
      | some step =>
          rw [stage_succ hs] at h
          exact (SharedCaches.changes_act _ _ _).row?_eq_none h

theorem share_of_row?_eq_none (h : r.steps[n]? = some (now, .share k tenant))
    (hrow : (r.stage n).row? tenant = none) (hr : r.reply? n = some (.share share)) :
    share = min (r.terms.get k).2 100 := by
  obtain ⟨j, hj, rfl⟩ := share_of_last_load h hr
  have hrow' : (r.stage j).row? tenant = none :=
    row?_eq_none_of_le (Nat.le_of_lt_succ hj.before) hrow
  rw [effective, hrow', effectiveShare]

end CacheRun

namespace Settings

def shareVariable : String := "DEFAULT_EXPERIMENT_TRAFFIC_PCT"

/-- The variable holds a numeral for this number. -/
def Configures (value? : String → Option String) (n : ℕ) : Prop :=
  ∃ text, value? shareVariable = some text ∧ Text.SpellsNatural text n

variable {value? other? : String → Option String} {m n : ℕ}

theorem defaultShare_of_configures (h : Configures value? n) :
    (ofEnvironment value?).defaultShare = if n < 256 then min n 100 else 0 := by
  obtain ⟨text, hvalue, hspells⟩ := h
  have hread := Text.natural?_of_spells hspells (UInt8.size - 1)
  have hnumber : number (UInt8.size - 1) 0 (some text) = if n < 256 then n else 0 := by
    rw [number, Option.bind_some, hread]
    by_cases hn : n < 256
    · have hfits : n ≤ UInt8.size - 1 := Nat.le_of_lt_succ hn
      rw [if_pos hfits, if_pos hn, Option.getD_some]
    · have hlarge : ¬ n ≤ UInt8.size - 1 := fun hle => hn (Nat.lt_succ_of_le hle)
      rw [if_neg hlarge, if_neg hn, Option.getD_none]
  change min (number (UInt8.size - 1) 0 (value? shareVariable)) 100 = _
  rw [hvalue, hnumber]
  split_ifs
  · rfl
  · rfl

theorem defaultShare_le_of_le (hm : Configures value? m) (hn : Configures other? n) (hle : m ≤ n)
    (hbyte : n < 256) :
    (ofEnvironment value?).defaultShare ≤ (ofEnvironment other?).defaultShare := by
  rw [defaultShare_of_configures hm, defaultShare_of_configures hn, if_pos hbyte,
    if_pos (Nat.lt_of_le_of_lt hle hbyte)]
  exact min_le_min_right 100 hle

/-- A configured default below 256 is clamped to 100, and from 256 on it counts as 0. In every run
over caches, one that is built with these settings answers just that for a tenant without a row, and
it does answer while the store can be reached. Below 256 a larger number never means a smaller
default. -/
theorem default_clamped_within_a_byte (value? : String → Option String) (n : ℕ)
    (h : Configures value? n) :
    let served := if n < 256 then min n 100 else 0
    (ofEnvironment value?).defaultShare = served ∧
    (∀ (r : CacheRun) (k : Fin r.terms.length) (tenant : Uuid) (i now : ℕ),
      r.terms.get k = ((ofEnvironment value?).shareLifetime, (ofEnvironment value?).defaultShare) →
      r.steps[i]? = some (now, .share k tenant) → (r.stage i).row? tenant = none →
      (∀ share, r.reply? i = some (.share share) → share = served) ∧
      ((r.stage i).line.cut = none → r.reply? i = some (.share served))) ∧
    ∀ other? m, Configures other? m → n ≤ m → m < 256 →
      served ≤ (ofEnvironment other?).defaultShare := by
  intro served
  have hdefault : (ofEnvironment value?).defaultShare = served := defaultShare_of_configures h
  refine ⟨hdefault, ?_, ?_⟩
  · intro r k tenant i now hterms hs hrow
    have hcapped : min (r.terms.get k).2 100 = served := by
      rw [hterms, min_eq_left (defaultShare_le value?), hdefault]
    have hshare : ∀ share, r.reply? i = some (.share share) → share = served := fun share hr =>
      (CacheRun.share_of_row?_eq_none hs hrow hr).trans hcapped
    refine ⟨hshare, fun hcut => ?_⟩
    obtain ⟨share, hr⟩ := (CacheRun.answered_iff hs).mpr (Or.inl hcut)
    rw [hr, hshare share hr]
  · intro other? m hm hle hbyte
    exact hdefault.symm.le.trans (defaultShare_le_of_le h hm hle hbyte)

def settingShare (text : String) (name : String) : Option String :=
  if name = shareVariable then some text else none

/-- The numeral +0150 sets the default to 100, which a tenant without a row has next to one that has
a row. -/
theorem default_of_plus_zero_150 :
    Configures (settingShare "+0150") 150 ∧
    (ofEnvironment (settingShare "+0150")).defaultShare = 100 ∧
    let r : CacheRun := ⟨[(60, 100)], ⟨.empty, none⟩,
      [(0, .store ⟨⟨1⟩, 30⟩), (1, .share 0 ⟨1⟩), (2, .share 0 ⟨2⟩)]⟩
    r.reply? 2 = some (.share 100) := by
  have hdigits : Text.IsDigits ['0', '1', '5', '0'] := by decide
  have h : Configures (settingShare "+0150") 150 := ⟨"+0150", rfl, .plus rfl hdigits (by decide)⟩
  obtain ⟨hdefault, hserved, -⟩ := default_clamped_within_a_byte (settingShare "+0150") 150 h
  refine ⟨h, hdefault, ?_⟩
  intro r
  exact (hserved r ⟨0, by decide⟩ ⟨2⟩ 2 2 (by decide) rfl (by decide)).2 rfl

/-- The number 256 sets the default to 0 and not to 100, as 255 does. -/
theorem default_of_256_not_clamped :
    Configures (settingShare "256") 256 ∧
    (ofEnvironment (settingShare "256")).defaultShare = 0 ∧
    (ofEnvironment (settingShare "256")).defaultShare ≠ min 256 100 ∧
    Configures (settingShare "255") 255 ∧
    (ofEnvironment (settingShare "255")).defaultShare = 100 := by
  have hlarge : Configures (settingShare "256") 256 := ⟨"256", rfl, .plain (by decide) (by decide)⟩
  have hsmall : Configures (settingShare "255") 255 := ⟨"255", rfl, .plain (by decide) (by decide)⟩
  have hzero : (ofEnvironment (settingShare "256")).defaultShare = 0 :=
    defaultShare_of_configures hlarge
  refine ⟨hlarge, hzero, ?_, hsmall, defaultShare_of_configures hsmall⟩
  rw [hzero]
  decide

end Settings

end RetryTrial
