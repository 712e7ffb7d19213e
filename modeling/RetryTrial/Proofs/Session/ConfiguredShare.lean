import RetryTrial.Proofs.LastMember
import RetryTrial.Proofs.Session.MirroredRow
import RetryTrial.Proofs.Session.Run

/-!
# The configured share is the enforced one

In a session over shares in memory a tenant's share is configured by the last `PUT` for it that was
answered with 200; before the first one it is the default. As long as nothing writes the tenant's
row past the cache, the configured share is what a `GET` shows and what decisions are drawn by,
whatever else happens and however long entries are kept.
-/

namespace RetryTrial

/-- The action asks for a decision on the attempt. -/
def Action.Decides (attempt : Attempt) : Action → Prop
  | decide asked => asked = attempt
  | request r => r.ForDecision attempt
  | _ => False

/-- The reply is this decision, as such or in a response. -/
def Reply.Tells (decided : Decision) : Reply → Prop
  | decision told => told = decided
  | response told => told = .ok (Json.Shape.decision.write decided)
  | _ => False

namespace World

variable {setup : Setup} {w : World} {now fallback : Nat} {tenant : Uuid}
  {row : Option TenantShare} {action : Action} {attempt : Attempt} {r : Http.Request}
  {body : Http.Body} {percent : Int32}

theorem reply_get_eq (hget : r.ForShare "GET" tenant) (setup : Setup) (w : World) (now : Nat) :
    (w.act setup now (.request r)).value.1 = .response (Http.getShare w now tenant).value.1 := by
  rw [value_act_request, Http.value_respond_of_call (Http.Request.call_of_get hget setup)
    (hget.ne_head (by decide))]
  rfl

/-- A `GET` that succeeds shows the share that the mirrored row stands for. -/
theorem Mirrors.body_eq (h : w.Mirrors tenant fallback row) (hget : r.ForShare "GET" tenant)
    (hreply : (w.act setup now (.request r)).value.1 = .response ⟨200, body⟩) :
    body = .document
      (Json.Shape.tenantShare.write ⟨tenant, Int32.ofNat (effectiveShare fallback row)⟩) := by
  rw [reply_get_eq hget, Reply.response.injEq] at hreply
  cases hs : (w.cachedShare now tenant).value.1 with
  | error failure =>
      rw [Http.value_getShare_of_error hs] at hreply
      cases hreply
  | ok share =>
      rw [Http.value_getShare_of_ok hs, h.share_eq hs] at hreply
      exact (congrArg Http.Response.body hreply).symm

theorem Mirrors.shown_iff (h : w.Mirrors tenant fallback row) (hget : r.ForShare "GET" tenant) :
    (w.act setup now (.request r)).value.1 = .response (.ok
      (Json.Shape.tenantShare.write ⟨tenant, Int32.ofNat (effectiveShare fallback row)⟩)) ↔
      w.backend.cut = none ∨ ∃ share, w.cache.fresh? now tenant = some share := by
  rw [reply_get_eq hget, ← h.answered_iff, Reply.response.injEq]
  cases hs : (w.cachedShare now tenant).value.1 with
  | error failure => simp [Http.value_getShare_of_error hs, Http.Response.error, Http.Response.ok]
  | ok share => simp [Http.value_getShare_of_ok hs, h.share_eq hs]

theorem Mirrors.accepted_iff (h : w.Mirrors tenant fallback row) (hput : r.ForShare "PUT" tenant)
    (hk : r.hasKey "X-Admin-Api-Key" setup.adminKey = true)
    (hb : r.bodyRecord Json.Shape.shareUpdate = .ok percent) :
    (Http.respond setup w now r).value.1.status = 200 ↔
      ¬ (percent < 0 ∨ 100 < percent) ∧ w.backend.cut = none := by
  rw [Http.value_respond_of_call (Http.Request.call_of_keyed_put hput hk hb)
    (hput.ne_head (by decide)), ← h.replaced_iff ⟨tenant, percent⟩]
  exact Http.status_putShare_eq_200_iff

theorem act_of_decides (h : action.Decides attempt)
    (hgate : (w.act setup now action).value.2.gate ≠ w.gate) :
    (w.act setup now action).value.1.Tells (w.decide setup now attempt).value.1 ∧
      (w.act setup now action).value.2 = (w.decide setup now attempt).value.2 := by
  cases action with
  | decide asked =>
      obtain rfl : asked = attempt := h
      exact ⟨rfl, rfl⟩
  | request r =>
      have hread : r.ForDecision attempt := h
      have hcall := Http.Request.call_of_decision hread setup
      have hm : r.method ≠ "HEAD" := by
        rw [hread.method_eq]
        decide
      rw [value_act_request] at hgate ⊢
      cases hk : r.requireKey setup .internal with
      | error refusal =>
          rw [hk] at hcall
          rw [Http.value_respond_of_refused hcall] at hgate
          exact absurd rfl hgate
      | ok u =>
          rw [hk] at hcall
          rw [Http.value_respond_of_call hcall hm]
          exact ⟨rfl, rfl⟩
  | _ => exact h.elim

end World

/-- A session whose service takes shares from a cache over rows in memory. It starts without rows
and with an empty cache. -/
structure ShareSession where
  setup : Setup
  fromCache : setup.origin = .cache
  history : Ledger
  methods : Ledger
  lifetime : Nat
  fallback : Nat
  fixedShares : FixedShares
  steps : List (Nat × Action)

namespace ShareSession

variable (s : ShareSession) (tenant : Uuid)

def start : World :=
  ⟨.fresh, ⟨.memory s.history s.methods .empty, none⟩, .new s.lifetime s.fallback, s.fixedShares,
    none⟩

/-- The world before step `n`. -/
def stage (n : Nat) : World := s.start.after s.setup (s.steps.take n)

def reply? (n : Nat) : Option Reply := (World.run s.setup s.start s.steps)[n]?.map (·.value.1)

/-- Nothing in the session writes the tenant's row past the cache, or leaves memory. -/
def ThroughCache : Prop := ∀ step ∈ s.steps, ¬ step.2.Bypasses tenant

/-- Step `n` is a `PUT` for the tenant's share that is answered with 200. -/
def Replaced (n : Nat) : Prop :=
  ∃ now action, s.steps[n]? = some (now, action) ∧
    World.Replaces s.setup (s.stage n) now action tenant

/-- Of the steps before `n`, step `i` is the last `PUT` for the tenant that is answered with 200,
and this is the percentage in its body. -/
structure LastPut (n i : Nat) (percent : Int32) : Prop where
  before : i < n
  replaced : s.Replaced tenant i
  body : ∃ now r, s.steps[i]? = some (now, .request r) ∧
    r.bodyRecord Json.Shape.shareUpdate = .ok percent
  last : ∀ j, i < j → j < n → ¬ s.Replaced tenant j

/-- Before step `n` this is the tenant's configured share, in percent. -/
def Configured (n : Nat) (percent : Int32) : Prop :=
  (∃ i, s.LastPut tenant n i percent) ∨
    (∀ i, i < n → ¬ s.Replaced tenant i) ∧ percent = Int32.ofNat (min s.fallback 100)

variable {s tenant} {n i now : Nat} {action : Action} {percent : Int32} {attempt : Attempt}

theorem stage_succ (h : s.steps[n]? = some (now, action)) :
    s.stage (n + 1) = ((s.stage n).act s.setup now action).value.2 :=
  World.after_take_succ s.setup h s.start

theorem stage_succ_of_none (h : s.steps[n]? = none) : s.stage (n + 1) = s.stage n := by
  simp only [stage, List.take_add_one, h, Option.toList_none, List.append_nil]

theorem reply?_eq (h : s.steps[n]? = some (now, action)) :
    s.reply? n = some ((s.stage n).act s.setup now action).value.1 := by
  rw [reply?, World.getElem?_run, h]
  rfl

theorem LastPut.unique {j : Nat} {other : Int32} (hi : s.LastPut tenant n i percent)
    (hj : s.LastPut tenant n j other) : percent = other := by
  obtain rfl : i = j :=
    eq_of_last_step hi.before hi.replaced hi.last hj.before hj.replaced hj.last
  obtain ⟨now, r, hs, hbody⟩ := hi.body
  obtain ⟨now', r', hs', hbody'⟩ := hj.body
  rw [hs] at hs'
  cases hs'
  exact Except.ok.inj (hbody.symm.trans hbody')

theorem Configured.unique {other : Int32} (h : s.Configured tenant n percent)
    (ho : s.Configured tenant n other) : percent = other := by
  rcases h with ⟨i, hi⟩ | ⟨hnever, hpercent⟩
  · rcases ho with ⟨j, hj⟩ | ⟨hnever, -⟩
    · exact hi.unique hj
    · exact absurd hi.replaced (hnever i hi.before)
  · rcases ho with ⟨j, hj⟩ | ⟨-, hother⟩
    · exact absurd hj.replaced (hnever j hj.before)
    · rw [hpercent, hother]

theorem LastPut.succ (h : s.LastPut tenant n i percent) (hn : ¬ s.Replaced tenant n) :
    s.LastPut tenant (n + 1) i percent :=
  ⟨Nat.lt_succ_of_lt h.before, h.replaced, h.body, forall_step_succ h.last hn⟩

theorem Configured.succ (h : s.Configured tenant n percent) (hn : ¬ s.Replaced tenant n) :
    s.Configured tenant (n + 1) percent := by
  rcases h with ⟨i, hi⟩ | ⟨hnever, hpercent⟩
  · exact Or.inl ⟨i, hi.succ hn⟩
  · refine Or.inr ⟨?_, hpercent⟩
    intro j hj
    by_cases hjn : j = n
    · exact hjn ▸ hn
    · exact hnever j (by omega)

theorem ofNat_effectiveShare (h : ¬ (percent < 0 ∨ 100 < percent)) (fallback : Nat)
    (tenant : Uuid) : Int32.ofNat (effectiveShare fallback (some ⟨tenant, percent⟩)) = percent := by
  rw [not_or, Int32.lt_iff_toInt_lt, Int32.lt_iff_toInt_lt] at h
  have hzero : (0 : Int32).toInt = 0 := rfl
  have hundred : (100 : Int32).toInt = 100 := rfl
  have hle := effectiveShare_le fallback (some ⟨tenant, percent⟩)
  rw [← Int32.toInt_inj, Int32.toInt_ofNat_of_lt (by omega)]
  simp only [effectiveShare]
  omega

theorem mirrors_start (s : ShareSession) (tenant : Uuid) :
    s.start.Mirrors tenant s.fallback none := by
  refine ⟨?_, rfl, ?_⟩
  · simp [start, Backend.Holds, MemoryShares.empty]
  · intro e he
    simp [start, ShareCache.new] at he

/-- At every stage the cache mirrors a row that stands for the configured share. -/
theorem exists_configured (h : s.ThroughCache tenant) (n : Nat) :
    ∃ row percent, s.Configured tenant n percent ∧
      (s.stage n).Mirrors tenant s.fallback row ∧
      percent = Int32.ofNat (effectiveShare s.fallback row) := by
  induction n with
  | zero => exact ⟨none, _, Or.inr ⟨nofun, rfl⟩, s.mirrors_start tenant, rfl⟩
  | succ n ih =>
      obtain ⟨row, percent, hconf, hm, hpercent⟩ := ih
      by_cases hr : s.Replaced tenant n
      · obtain ⟨now, action, hs, hreplaces⟩ := id hr
        obtain ⟨r, body, rfl, -, -⟩ := id hreplaces
        obtain ⟨put, hbody, hbounds, hafter⟩ := hm.after_replacement hreplaces
        have hlast : s.LastPut tenant (n + 1) n put :=
          ⟨Nat.lt_succ_self n, hr, ⟨now, r, hs, hbody⟩, fun j hj hjn => by omega⟩
        refine ⟨some ⟨tenant, put⟩, put, Or.inl ⟨n, hlast⟩, ?_, ?_⟩
        · rw [stage_succ hs]
          exact hafter
        · exact (ofNat_effectiveShare hbounds s.fallback tenant).symm
      · refine ⟨row, percent, hconf.succ hr, ?_, hpercent⟩
        cases hs : s.steps[n]? with
        | none =>
            rw [stage_succ_of_none hs]
            exact hm
        | some step =>
            rw [stage_succ hs]
            refine hm.after_act (h step (List.mem_of_getElem? hs)) ?_
            intro hreplaces
            exact hr ⟨step.1, step.2, hs, hreplaces⟩

theorem replied_iff {r : Http.Request} (h : s.steps[n]? = some (now, .request r)) (status : Nat) :
    (∃ body, s.reply? n = some (.response ⟨status, body⟩)) ↔
      (Http.respond s.setup (s.stage n) now r).value.1.status = status := by
  rw [reply?_eq h, World.value_act_request]
  constructor
  · rintro ⟨body, hreply⟩
    rw [Reply.response.inj (Option.some.inj hreply)]
  · rintro rfl
    exact ⟨(Http.respond s.setup (s.stage n) now r).value.1.body, rfl⟩

/-- Whatever happens in a session that writes a tenant's row only by `PUT`: before every step the
tenant has a configured percentage, which a `GET` that succeeds shows, and at which every decision
that changes the gate is drawn. A `GET` succeeds exactly if the cache has a young enough entry or
the rows can be reached, and a `PUT` with the admin key and a percentage exactly if the percentage
is in bounds and the rows can be reached; it is refused as bad exactly if the percentage is out of
bounds. -/
theorem configured_share_enforced (s : ShareSession) :
    (∀ tenant, s.ThroughCache tenant → ∀ n, ∃ percent,
      (∀ p, s.Configured tenant n p ↔ p = percent) ∧
      (∀ now r body, s.steps[n]? = some (now, .request r) → r.ForShare "GET" tenant →
        s.reply? n = some (.response ⟨200, body⟩) →
        body = .document (Json.Shape.tenantShare.write ⟨tenant, percent⟩)) ∧
      (∀ now action attempt, s.steps[n]? = some (now, action) → action.Decides attempt →
        attempt.tenant = tenant → (s.stage (n + 1)).gate ≠ (s.stage n).gate →
        ∃ (d : Decline) (share : Nat) (reply : Reply) (decided : Decision),
          World.Verdict s.setup (s.stage n) attempt d ∧ percent.toInt = share ∧
          s.reply? n = some reply ∧ reply.Tells decided ∧
          ((s.stage n).gate.decide s.setup.draws attempt.id (some d) share).value =
            (decided, (s.stage (n + 1)).gate)) ∧
      (∀ now r, s.steps[n]? = some (now, .request r) → r.ForShare "GET" tenant →
        (s.reply? n = some (.response
            ⟨200, .document (Json.Shape.tenantShare.write ⟨tenant, percent⟩)⟩) ↔
          (s.stage n).backend.cut = none ∨
            ∃ share, (s.stage n).cache.fresh? now tenant = some share)) ∧
      (∀ now r put, s.steps[n]? = some (now, .request r) → r.ForShare "PUT" tenant →
        r.hasKey "X-Admin-Api-Key" s.setup.adminKey = true →
        r.bodyRecord Json.Shape.shareUpdate = .ok put →
        ((∃ body, s.reply? n = some (.response ⟨200, body⟩)) ↔
          ¬ (put < 0 ∨ 100 < put) ∧ (s.stage n).backend.cut = none))) ∧
    (∀ n now r tenant percent, s.steps[n]? = some (now, .request r) → r.ForShare "PUT" tenant →
      r.hasKey "X-Admin-Api-Key" s.setup.adminKey = true →
      r.bodyRecord Json.Shape.shareUpdate = .ok percent →
      ((∃ body, s.reply? n = some (.response ⟨400, body⟩)) ↔ percent < 0 ∨ 100 < percent)) := by
  constructor
  · intro tenant h n
    obtain ⟨row, percent, hconf, hm, hpercent⟩ := exists_configured h n
    have hiff : ∀ p, s.Configured tenant n p ↔ p = percent := by
      intro p
      exact ⟨fun hp => hp.unique hconf, fun hp => hp ▸ hconf⟩
    refine ⟨percent, hiff, ?_, ?_, ?_, ?_⟩
    · intro now r body hs hget hreply
      rw [reply?_eq hs, Option.some.injEq] at hreply
      rw [hpercent]
      exact hm.body_eq hget hreply
    · rintro now action attempt hs hdecides rfl hgate
      rw [stage_succ hs] at hgate ⊢
      obtain ⟨htells, hworld⟩ := World.act_of_decides hdecides hgate
      rw [hworld] at hgate ⊢
      obtain ⟨d, hv, hdecided⟩ := hm.decide_eq s.fromCache hgate
      refine ⟨d, effectiveShare s.fallback row, _, _, hv, ?_, reply?_eq hs, htells, hdecided⟩
      have hle := effectiveShare_le s.fallback row
      rw [hpercent, Int32.toInt_ofNat_of_lt (by omega)]
    · intro now r hs hget
      rw [reply?_eq hs, Option.some.injEq, hpercent]
      exact hm.shown_iff hget
    · intro now r put hs hput hk hbody
      rw [replied_iff hs]
      exact hm.accepted_iff hput hk hbody
  · intro n now r tenant percent hs hput hk hbody
    rw [replied_iff hs,
      Http.value_respond_of_call (Http.Request.call_of_keyed_put hput hk hbody)
        (hput.ne_head (by decide))]
    exact Http.status_putShare_eq_400_iff

def aboutSeven (method body : String) : Http.Request :=
  ⟨method, "/experiment-config/00000000-0000-0000-0000-000000000007",
    [("X-Admin-Api-Key", "admin"), ("Content-Type", "application/json")], Text.encode body⟩

/-- A session with a failed payment. The share is set to 40, and to 60 in vain while the line is
cut; then the payment is retried. -/
def setInVain : ShareSession where
  setup :=
    { classifier :=
        ⟨(Table.build [.processor "Braintree" [⟨2004, "Expired Card", .expiredCard, false⟩],
          .route "blue" "Braintree"]).value, ⟨[]⟩⟩
      draws := .fixed 39
      origin := .cache
      adminKey := "admin"
      internalKey := "internal" }
  fromCache := rfl
  history := .empty
  methods := .empty
  lifetime := 1000
  fallback := 5
  fixedShares := .new 5
  steps :=
    [(0, .addPaymentMethod ⟨9⟩ "blue"),
      (0, .addPayment ⟨⟨1⟩, "failed", ⟨8⟩, ⟨9⟩, none, false,
        [⟨⟨11⟩, "a", .authorize, .paymentFailure, none, none, some ⟨some "2004", none, ∅⟩⟩]⟩),
      (1, .request (aboutSeven "GET" "")),
      (2, .request (aboutSeven "PUT" "\x7b\"experiment_traffic_pct\":40\x7d")),
      (3, .cutStore (some ⟨"down", []⟩)),
      (4, .request (aboutSeven "PUT" "\x7b\"experiment_traffic_pct\":60\x7d")),
      (5, .cutStore none),
      (6, .decide ⟨⟨1⟩, ⟨8⟩, ⟨9⟩, ⟨7⟩⟩),
      (7, .request (aboutSeven "GET" "")),
      (8, .request (aboutSeven "PUT" "\x7b\"experiment_traffic_pct\":101\x7d"))]

/-- The retry is decided at 40 percent, which is also shown afterwards. -/
theorem decided_at_forty :
    setInVain.ThroughCache ⟨7⟩ ∧ setInVain.LastPut ⟨7⟩ 7 3 40 ∧
      (∃ d, ((setInVain.stage 7).gate.decide (.fixed 39) ⟨1⟩ (some d) 40).value =
        (⟨true⟩, (setInVain.stage 8).gate)) ∧
      setInVain.reply? 8 =
        some (.response ⟨200, .document (Json.Shape.tenantShare.write ⟨⟨7⟩, 40⟩)⟩) ∧
      (∃ body, setInVain.reply? 9 = some (.response ⟨400, body⟩)) := by
  have hthrough : setInVain.ThroughCache ⟨7⟩ := by
    simp [ThroughCache, setInVain, Action.Bypasses]
  have hpath : (aboutSeven "" "").leadsTo = .share "00000000-0000-0000-0000-000000000007" := rfl
  have habout : ∀ method body, (aboutSeven method body).ForShare method ⟨7⟩ :=
    fun method body => ⟨rfl, "00000000-0000-0000-0000-000000000007", hpath, rfl⟩
  have hlast : setInVain.LastPut ⟨7⟩ 7 3 40 := by
    refine ⟨by decide, ⟨2, _, rfl, _, _, rfl, habout _ _, rfl⟩, ⟨2, _, rfl, rfl⟩, ?_⟩
    rintro j hj hj7 ⟨now, action, hs, r, body, rfl, -, hreply⟩
    obtain rfl | rfl | rfl : j = 4 ∨ j = 5 ∨ j = 6 := by omega
    · cases hs
    · cases hs
      cases hreply
    · cases hs
  have hdecide : ¬ setInVain.Replaced ⟨7⟩ 7 := by
    rintro ⟨now, action, hs, r, body, rfl, -, -⟩
    cases hs
  obtain ⟨hconfigured, hbounds⟩ := configured_share_enforced setInVain
  refine ⟨hthrough, hlast, ?_, ?_, ?_⟩
  · obtain ⟨percent, hiff, -, hdecides, -⟩ := hconfigured ⟨7⟩ hthrough 7
    obtain rfl : (40 : Int32) = percent := (hiff 40).mp (Or.inl ⟨3, hlast⟩)
    have hgate : (setInVain.stage 8).gate ≠ (setInVain.stage 7).gate := by
      intro h
      cases congrArg Gate.attempted h
    obtain ⟨d, share, reply, decided, -, hshare, hreply, htells, hdecided⟩ :=
      hdecides 6 _ ⟨⟨1⟩, ⟨8⟩, ⟨9⟩, ⟨7⟩⟩ rfl rfl rfl hgate
    have hforty : (40 : Int32).toInt = 40 := rfl
    obtain rfl : share = 40 := by omega
    have htold : setInVain.reply? 7 = some (.decision ⟨true⟩) := rfl
    obtain rfl : .decision ⟨true⟩ = reply := Option.some.inj (htold.symm.trans hreply)
    obtain rfl : ⟨true⟩ = decided := htells
    exact ⟨d, hdecided⟩
  · obtain ⟨percent, hiff, -, -, hget, -⟩ := hconfigured ⟨7⟩ hthrough 8
    obtain rfl : (40 : Int32) = percent := (hiff 40).mp (Or.inl ⟨3, hlast.succ hdecide⟩)
    exact (hget 7 _ rfl (habout _ _)).mpr (Or.inl rfl)
  · exact (hbounds 9 8 _ ⟨7⟩ 101 rfl (habout _ _) rfl rfl).mpr (Or.inr (by decide))

end ShareSession

end RetryTrial
