import RetryTrial.Proofs.Http.Requests
import RetryTrial.Proofs.Service.Reading

/-!
# Answers that are errors

A request is answered with 200 or with an error. Refusals come before anything is touched, billing
records are only read, and a share that cannot be loaded or written leaves cache and store alone. So
an error means that the world is as it was.
-/

namespace RetryTrial.Http

variable {setup : Setup} {w : World} {now : Nat} {r : Request} {call : Call} {tenant : Uuid}
  {percent : Int32}

theorem status_respond_of_call (h : r.call setup = .ok call) (w : World) (now : Nat) :
    (respond setup w now r).value.1.status = (answer setup w now call).value.1.status := by
  simp only [respond, h, Traced.value_bind, Traced.value_pure]
  split <;> rfl

theorem queries_respond_of_refused {refusal : Refusal} (h : r.call setup = .error refusal)
    (w : World) (now : Nat) : (respond setup w now r).queries = [] := by
  cases refusal <;> simp [respond, h, refuse]

theorem queries_respond_of_call (h : r.call setup = .ok call) (w : World) (now : Nat) :
    (respond setup w now r).queries = (answer setup w now call).queries := by
  simp [respond, h]

theorem readOnly_checkPayment (setup : Setup) (w : World) (externalKey : String) (tenant : Uuid) :
    (checkPayment setup w externalKey tenant).ReadOnly := by
  unfold checkPayment
  rw [Traced.readOnly_bind]
  refine ⟨w.readOnly_paymentDecline setup externalKey tenant, ?_⟩
  split <;> simp

theorem readOnly_checkReadiness (setup : Setup) (w : World) :
    (checkReadiness setup w).ReadOnly := by
  have hready : (ready w.backend.store).ReadOnly := by
    cases w.backend.store with
    | memory history methods shares => exact Traced.readOnly_pure _
    | database db => exact db.readOnly_ready
  simpa [checkReadiness] using hready

theorem readOnly_getShare (w : World) (now : Nat) (tenant : Uuid) :
    (getShare w now tenant).ReadOnly := by
  unfold getShare
  rw [Traced.readOnly_bind]
  refine ⟨w.readOnly_cachedShare now tenant, ?_⟩
  rcases (w.cachedShare now tenant).value with ⟨_ | share, answered⟩ <;> simp

/-- A call that is answered with an error changes nothing. -/
theorem world_answer_of_failed (h : (answer setup w now call).value.1.status ≠ 200) :
    (answer setup w now call).value.2 = w := by
  cases call with
  | declineCodes | checkPayment | statistics | readiness | liveness => rfl
  | getShare tenant =>
      change (getShare w now tenant).value.1.status ≠ 200 at h
      change (getShare w now tenant).value.2 = w
      cases hs : (w.cachedShare now tenant).value.1 with
      | ok share =>
          rw [value_getShare_of_ok hs] at h
          exact absurd rfl h
      | error failure => rw [value_getShare_of_error hs, World.value_cachedShare_of_error hs]
  | putShare tenant percent => exact world_putShare_of_failed h
  | decide attempt => exact absurd rfl h
  | score attempt outcome => exact absurd rfl h

/-- A call that is answered with an error has not asked for a row to be written, or in vain. -/
theorem write_of_failed (h : (answer setup w now call).value.1.status ≠ 200) :
    (answer setup w now call).ReadOnly ∨
      ∃ row failure, (w.putShare row).value.1 = .error failure := by
  cases call with
  | declineCodes => exact Or.inl (Traced.readOnly_pure _)
  | statistics | liveness => exact Or.inl (Traced.readOnly_pure _)
  | checkPayment externalKey tenant =>
      have hcheck := readOnly_checkPayment setup w externalKey tenant
      exact Or.inl (by simpa [answer] using hcheck)
  | readiness =>
      have hcheck := readOnly_checkReadiness setup w
      exact Or.inl (by simpa [answer] using hcheck)
  | getShare tenant => exact Or.inl (readOnly_getShare w now tenant)
  | putShare tenant percent =>
      change (putShare w tenant percent).value.1.status ≠ 200 at h
      by_cases ho : percent < 0 ∨ 100 < percent
      · refine Or.inl ?_
        change (putShare w tenant percent).ReadOnly
        simp [putShare, ho]
      · cases hs : (w.putShare ⟨tenant, percent⟩).value.1 with
        | ok done => exact absurd (status_putShare_eq_200_iff.mpr ⟨ho, hs⟩) h
        | error failure => exact Or.inr ⟨_, failure, hs⟩
  | decide attempt => exact absurd rfl h
  | score attempt outcome => exact absurd rfl h

/-- A request that is not answered with 200 leaves the world as it was: the gate, the stored rows
and the cached shares. A database has then been asked to write a row only if it has failed to. -/
theorem errors_change_nothing (setup : Setup) (w : World) (now : Nat) (r : Request)
    (h : (respond setup w now r).value.1.status ≠ 200) :
    (respond setup w now r).value.2 = w ∧
      ∀ q ∈ (respond setup w now r).queries, q.isWrite = true →
        ∃ row failure, (w.putShare row).value.1 = .error failure := by
  cases hcall : r.call setup with
  | error refusal =>
      rw [value_respond_of_refused hcall, queries_respond_of_refused hcall]
      exact ⟨rfl, nofun⟩
  | ok call =>
      rw [status_respond_of_call hcall] at h
      rw [world_respond_of_call hcall, queries_respond_of_call hcall]
      refine ⟨world_answer_of_failed h, ?_⟩
      intro q hq hwrite
      rcases write_of_failed h with hread | hfailed
      · rw [hread q hq] at hwrite
        cases hwrite
      · exact hfailed

/-- A service with keys and without declines. -/
def keyed : Setup := ⟨⟨⟨∅⟩, ⟨[]⟩⟩, .fixed 0, .cache, "admin", "internal"⟩

/-- The share of the seventh tenant is cached, and the line to the stored shares is cut. -/
def cutOff : World :=
  ⟨.fresh, ⟨.memory .empty .empty .empty, some ⟨"down", []⟩⟩,
    (ShareCache.new 1000 5).remember 0 ⟨7⟩ 40, .new 5, none⟩

def toSixty : Request :=
  ⟨"PUT", "/experiment-config/00000000-0000-0000-0000-000000000007",
    [("X-Admin-Api-Key", "admin"), ("Content-Type", "application/json")],
    Text.encode "\x7b\"experiment_traffic_pct\":60\x7d"⟩

/-- A replacement that fails in the store is answered with 500, and the tenant's old share is still
cached. -/
theorem cached_share_kept :
    (respond keyed cutOff 1 toSixty).value.1.status = 500 ∧
      (respond keyed cutOff 1 toSixty).value.2 = cutOff ∧
      (respond keyed cutOff 1 toSixty).value.2.cache.fresh? 1 ⟨7⟩ = some 40 := by
  have hstatus : (respond keyed cutOff 1 toSixty).value.1.status = 500 := rfl
  have hfailed : (respond keyed cutOff 1 toSixty).value.1.status ≠ 200 := by
    rw [hstatus]
    decide
  have hworld := (errors_change_nothing keyed cutOff 1 toSixty hfailed).1
  refine ⟨hstatus, hworld, ?_⟩
  rw [hworld]
  decide

end RetryTrial.Http
