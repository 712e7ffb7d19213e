import RetryTrial.Http.Response
import RetryTrial.Proofs.Service.Share

/-!
# What requests are read as

Only a `PUT` with the admin key and a percentage is read as a replacement of a share, and only a
`POST` with the internal key as a decision or as an outcome. A replacement is refused as bad exactly
if its percentage is out of bounds. If it is answered with 200 its row has been written, and
otherwise nothing has changed.
-/

namespace RetryTrial

theorem exists_of_bind_eq_ok {ε α β : Type} {x : Except ε α} {f : α → Except ε β} {b : β}
    (h : (x >>= f) = .ok b) : ∃ a, x = .ok a ∧ f a = .ok b := by
  cases x with
  | error e => cases h
  | ok a => exact ⟨a, rfl, h⟩

namespace Http
open Json

namespace Request

/-- The request asks by this method for the share of this tenant. -/
structure ForShare (r : Request) (method : String) (tenant : Uuid) : Prop where
  method_eq : r.method = method
  path : ∃ segment, r.leadsTo = .share segment ∧ pathUuid segment = .ok tenant

/-- The request asks for a decision on this attempt. -/
structure ForDecision (r : Request) (attempt : Attempt) : Prop where
  method_eq : r.method = "POST"
  path : r.leadsTo = .decide
  body : r.bodyRecord Shape.attempt = .ok attempt

/-- The request reports this outcome of the attempt. -/
structure ForOutcome (r : Request) (attempt : Uuid) (outcome : Outcome) : Prop where
  method_eq : r.method = "POST"
  path : ∃ segment, r.leadsTo = .outcome segment ∧ pathUuid segment = .ok attempt
  body : r.bodyRecord Shape.outcomeReport = .ok outcome

variable {r : Request} {setup : Setup} {tenant : Uuid} {percent : Int32} {attempt : Attempt}

theorem ForShare.ne_head {method : String} (h : r.ForShare method tenant)
    (hm : method ≠ "HEAD") : r.method ≠ "HEAD" := by
  rw [h.method_eq]
  exact hm

theorem requireKey_eq_ok_iff {guard : Guard} {u : Unit} :
    r.requireKey setup guard = .ok u ↔ r.hasKey guard.header (setup.key guard) = true := by
  unfold requireKey
  split <;> simp_all

theorem of_requireKey_bind_eq_ok {α : Type} {guard : Guard} {next : Unit → Except Refusal α} {a : α}
    (h : (r.requireKey setup guard >>= next) = .ok a) :
    r.hasKey guard.header (setup.key guard) = true ∧ next () = .ok a := by
  obtain ⟨_, hk, hn⟩ := exists_of_bind_eq_ok h
  exact ⟨requireKey_eq_ok_iff.mp hk, hn⟩

theorem of_requireMethod_bind_eq_ok {α : Type} {allowed : Bool} {next : Unit → Except Refusal α}
    {a : α} (h : (requireMethod allowed >>= next) = .ok a) :
    allowed = true ∧ next () = .ok a := by
  cases allowed with
  | false => cases h
  | true => exact ⟨rfl, h⟩

theorem call_of_get (h : r.ForShare "GET" tenant) (setup : Setup) :
    r.call setup = .ok (.getShare tenant) := by
  obtain ⟨hm, segment, hs, hu⟩ := h
  have hread : r.isRead = true := by simp [isRead, hm]
  rw [call, hs]
  simp only [hread, if_true, hu]
  rfl

theorem call_of_put (h : r.ForShare "PUT" tenant) (setup : Setup) :
    r.call setup = (do
      r.requireKey setup .admin
      let percent ← r.bodyRecord Shape.shareUpdate
      return .putShare tenant percent) := by
  obtain ⟨hm, segment, hs, hu⟩ := h
  have hread : r.isRead = false := by simp [isRead, hm]
  have hmethod : requireMethod (r.method == "PUT") = .ok () := by simp [requireMethod, hm]
  rw [call, hs]
  simp only [hread, hmethod, hu]
  rfl

theorem call_of_decision (h : r.ForDecision attempt) (setup : Setup) :
    r.call setup = (do
      r.requireKey setup .internal
      return .decide attempt) := by
  have hmethod : requireMethod (r.method == "POST") = .ok () := by
    simp [requireMethod, h.method_eq]
  rw [call, h.path]
  simp only [hmethod, h.body]
  rfl

/-- What stands behind a call that may change something: its method, path, key and body. -/
def Grants (r : Request) (setup : Setup) : Call → Prop
  | .putShare tenant percent =>
    r.ForShare "PUT" tenant ∧ r.hasKey "X-Admin-Api-Key" setup.adminKey = true ∧
      r.bodyRecord Shape.shareUpdate = .ok percent
  | .decide attempt =>
    r.ForDecision attempt ∧ r.hasKey "X-Internal-Api-Key" setup.internalKey = true
  | .score attempt outcome =>
    r.ForOutcome attempt outcome ∧ r.hasKey "X-Internal-Api-Key" setup.internalKey = true
  | .declineCodes .. | .checkPayment .. | .statistics | .readiness | .liveness | .getShare _ => True

theorem grants_of_call {call : Call} (h : r.call setup = .ok call) : r.Grants setup call := by
  cases hs : r.leadsTo with
  | share segment =>
      rw [Request.call, hs] at h
      cases hread : r.isRead with
      | true =>
          rw [hread] at h
          obtain ⟨_, _, h⟩ := exists_of_bind_eq_ok h
          cases h
          trivial
      | false =>
          rw [hread] at h
          obtain ⟨hk, h⟩ := of_requireKey_bind_eq_ok h
          obtain ⟨hm, h⟩ := of_requireMethod_bind_eq_ok h
          obtain ⟨_, hu, h⟩ := exists_of_bind_eq_ok h
          obtain ⟨_, hb, h⟩ := exists_of_bind_eq_ok h
          cases h
          exact ⟨⟨eq_of_beq hm, segment, hs, hu⟩, hk, hb⟩
  | decide =>
      rw [Request.call, hs] at h
      obtain ⟨hk, h⟩ := of_requireKey_bind_eq_ok h
      obtain ⟨hm, h⟩ := of_requireMethod_bind_eq_ok h
      obtain ⟨_, hb, h⟩ := exists_of_bind_eq_ok h
      cases h
      exact ⟨⟨eq_of_beq hm, hs, hb⟩, hk⟩
  | outcome segment =>
      rw [Request.call, hs] at h
      obtain ⟨hk, h⟩ := of_requireKey_bind_eq_ok h
      obtain ⟨hm, h⟩ := of_requireMethod_bind_eq_ok h
      obtain ⟨_, hu, h⟩ := exists_of_bind_eq_ok h
      obtain ⟨_, hb, h⟩ := exists_of_bind_eq_ok h
      cases h
      exact ⟨⟨eq_of_beq hm, ⟨segment, hs, hu⟩, hb⟩, hk⟩
  | declineCodes =>
      rw [Request.call, hs] at h
      obtain ⟨_, _, h⟩ := exists_of_bind_eq_ok h
      obtain ⟨_, _, h⟩ := exists_of_bind_eq_ok h
      obtain ⟨_, _, h⟩ := exists_of_bind_eq_ok h
      cases h
      trivial
  | paymentMethodCheck =>
      rw [Request.call, hs] at h
      obtain ⟨_, _, h⟩ := exists_of_bind_eq_ok h
      obtain ⟨_, _, h⟩ := exists_of_bind_eq_ok h
      obtain ⟨text, _, h⟩ := exists_of_bind_eq_ok h
      cases hu : Uuid.ofText? text with
      | none =>
          rw [hu] at h
          cases h
      | some u =>
          rw [hu] at h
          cases h
          trivial
  | statistics | readiness | liveness =>
      rw [Request.call, hs] at h
      obtain ⟨_, _, h⟩ := exists_of_bind_eq_ok h
      cases h
      trivial
  | unknown =>
      rw [Request.call, hs] at h
      obtain ⟨_, _, h⟩ := exists_of_bind_eq_ok h
      cases h

end Request

variable {setup : Setup} {w : World} {now : Nat} {r : Request} {tenant : Uuid} {percent : Int32}
  {attempt : Attempt} {refusal : Refusal} {call : Call} {failure : Failure}

theorem status_ofRefusal_ne (refusal : Refusal) : (Response.ofRefusal refusal).status ≠ 200 := by
  cases refusal <;> simp [Response.ofRefusal, Refusal.status]

theorem value_respond_of_refused (h : r.call setup = .error refusal) (w : World) (now : Nat) :
    (respond setup w now r).value = (.ofRefusal refusal, w) := by
  cases refusal <;> simp [respond, h, refuse]

theorem value_respond_of_call (h : r.call setup = .ok call) (hm : r.method ≠ "HEAD") (w : World)
    (now : Nat) : (respond setup w now r).value = (answer setup w now call).value := by
  simp [respond, h, hm]

theorem world_respond_of_call (h : r.call setup = .ok call) (w : World) (now : Nat) :
    (respond setup w now r).value.2 = (answer setup w now call).value.2 := by
  simp [respond, h]

theorem value_getShare_of_ok {share : Nat} (h : (w.cachedShare now tenant).value.1 = .ok share) :
    (getShare w now tenant).value =
      (.ok (Shape.tenantShare.write ⟨tenant, Int32.ofNat share⟩),
        (w.cachedShare now tenant).value.2) := by
  simp only [getShare, Traced.value_bind, h, Traced.value_pure]

theorem value_getShare_of_error (h : (w.cachedShare now tenant).value.1 = .error failure) :
    (getShare w now tenant).value =
      (.error 500 failure.message, (w.cachedShare now tenant).value.2) := by
  simp only [getShare, Traced.value_bind, h, Traced.value_pure]

theorem world_getShare (w : World) (now : Nat) (tenant : Uuid) :
    (getShare w now tenant).value.2 = (w.cachedShare now tenant).value.2 := by
  cases h : (w.cachedShare now tenant).value.1 with
  | ok share => rw [value_getShare_of_ok h]
  | error failure => rw [value_getShare_of_error h]

section PutShare

theorem value_putShare_of_outside (h : percent < 0 ∨ 100 < percent) (w : World) (tenant : Uuid) :
    (putShare w tenant percent).value =
      (.error 400 "experiment_traffic_pct must be within [0, 100]", w) := by
  simp [putShare, h]

theorem value_putShare_of_ok (h : ¬ (percent < 0 ∨ 100 < percent))
    (hok : (w.putShare ⟨tenant, percent⟩).value.1 = .ok ()) :
    (putShare w tenant percent).value =
      (.ok (.object [("updated", .flag true)]), (w.putShare ⟨tenant, percent⟩).value.2) := by
  simp only [putShare, h, if_false, Traced.value_bind, hok, Traced.value_pure]

theorem value_putShare_of_error (h : ¬ (percent < 0 ∨ 100 < percent))
    (hf : (w.putShare ⟨tenant, percent⟩).value.1 = .error failure) :
    (putShare w tenant percent).value =
      (.error 500 failure.message, (w.putShare ⟨tenant, percent⟩).value.2) := by
  simp only [putShare, h, if_false, Traced.value_bind, hf, Traced.value_pure]

theorem status_putShare_eq_200_iff : (putShare w tenant percent).value.1.status = 200 ↔
    ¬ (percent < 0 ∨ 100 < percent) ∧ (w.putShare ⟨tenant, percent⟩).value.1 = .ok () := by
  by_cases h : percent < 0 ∨ 100 < percent
  · simp [value_putShare_of_outside h, Response.error, h]
  · cases hs : (w.putShare ⟨tenant, percent⟩).value.1 with
    | ok done => simp [value_putShare_of_ok h hs, Response.ok, h]
    | error failure => simp [value_putShare_of_error h hs, Response.error]

theorem status_putShare_eq_400_iff : (putShare w tenant percent).value.1.status = 400 ↔
    percent < 0 ∨ 100 < percent := by
  by_cases h : percent < 0 ∨ 100 < percent
  · simp [value_putShare_of_outside h, Response.error, h]
  · cases hs : (w.putShare ⟨tenant, percent⟩).value.1 with
    | ok done => simp [value_putShare_of_ok h hs, Response.ok, h]
    | error failure => simp [value_putShare_of_error h hs, Response.error, h]

theorem world_putShare_of_failed (h : (putShare w tenant percent).value.1.status ≠ 200) :
    (putShare w tenant percent).value.2 = w := by
  by_cases ho : percent < 0 ∨ 100 < percent
  · rw [value_putShare_of_outside ho]
  · cases hs : (w.putShare ⟨tenant, percent⟩).value.1 with
    | ok done => exact absurd (status_putShare_eq_200_iff.mpr ⟨ho, hs⟩) h
    | error failure => rw [value_putShare_of_error ho hs, World.value_putShare_of_error hs]

theorem gate_putShare (w : World) (tenant : Uuid) (percent : Int32) :
    (putShare w tenant percent).value.2.gate = w.gate := by
  by_cases hs : (putShare w tenant percent).value.1.status = 200
  · obtain ⟨ho, hok⟩ := status_putShare_eq_200_iff.mp hs
    rw [value_putShare_of_ok ho hok]
    rfl
  · rw [world_putShare_of_failed hs]

theorem Request.call_of_keyed_put (h : r.ForShare "PUT" tenant)
    (hk : r.hasKey "X-Admin-Api-Key" setup.adminKey = true)
    (hb : r.bodyRecord Shape.shareUpdate = .ok percent) :
    r.call setup = .ok (.putShare tenant percent) := by
  have hkey : r.requireKey setup .admin = .ok () := requireKey_eq_ok_iff.mpr hk
  rw [call_of_put h, hkey, hb]
  rfl

/-- A request to replace a share that succeeds carries a percentage and is read accordingly. -/
theorem exists_call_of_accepted (h : r.ForShare "PUT" tenant)
    (hs : (respond setup w now r).value.1.status = 200) :
    ∃ percent, r.bodyRecord Shape.shareUpdate = .ok percent ∧
      r.call setup = .ok (.putShare tenant percent) := by
  cases hcall : r.call setup with
  | error refusal =>
      rw [value_respond_of_refused hcall] at hs
      exact absurd hs (status_ofRefusal_ne refusal)
  | ok call =>
      have hread := hcall
      rw [Request.call_of_put h] at hread
      obtain ⟨_, _, hread⟩ := exists_of_bind_eq_ok hread
      obtain ⟨percent, hb, hread⟩ := exists_of_bind_eq_ok hread
      cases hread
      exact ⟨percent, hb, rfl⟩

end PutShare

end Http

end RetryTrial
