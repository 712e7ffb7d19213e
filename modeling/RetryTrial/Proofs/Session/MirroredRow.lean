import RetryTrial.Proofs.Http.Requests
import RetryTrial.Proofs.Service.Mirror
import RetryTrial.Session

/-!
# Actions on a mirrored row

As long as a tenant's row is reached through the cache alone it goes on being mirrored, whatever is
done. It is replaced by a `PUT` for the tenant that is answered with 200, and by nothing else.
-/

namespace RetryTrial

/-- The action may write the tenant's row past the cache, or puts a database in place of memory. -/
def Action.Bypasses (tenant : Uuid) : Action → Prop
  | storeShare row | writeStore row => row.tenant = tenant
  | setDatabase _ => True
  | _ => False

namespace Backend.Holds

variable {b : Backend} {tenant : Uuid} {row : Option TenantShare} {written : TenantShare}

theorem mapHistory (h : b.Holds tenant row) (f : Ledger → Ledger) :
    (b.mapHistory f).Holds tenant row := by
  cases b with
  | memory history methods shares => exact h
  | database db => exact h

theorem mapMethods (h : b.Holds tenant row) (f : Ledger → Ledger) :
    (b.mapMethods f).Holds tenant row := by
  cases b with
  | memory history methods shares => exact h
  | database db => exact h

theorem read (h : b.Holds tenant row) (other : Uuid) :
    (ShareStore.read b other).value.2.Holds tenant row := by
  cases b with
  | memory history methods shares => exact h
  | database db => exact h.elim

theorem storeShare (h : b.Holds tenant row) (hother : written.tenant ≠ tenant) :
    (b.storeShare written).Holds tenant row := by
  cases b with
  | memory history methods shares =>
      have hrow : (shares.write written).rows[tenant]? = shares.rows[tenant]? := by
        simp [MemoryShares.write, Std.ExtTreeMap.getElem?_insert, hother]
      exact hrow.trans h
  | database db => exact h

theorem write (h : b.Holds tenant row) (hother : written.tenant ≠ tenant) :
    (ShareStore.write b written).value.2.Holds tenant row := by
  cases b with
  | memory history methods shares => exact h.storeShare hother
  | database db => exact h.elim

end Backend.Holds

namespace World

/-- The action is a `PUT` for the tenant's share and is answered with 200. -/
def Replaces (setup : Setup) (w : World) (now : Nat) (action : Action) (tenant : Uuid) : Prop :=
  ∃ r body, action = .request r ∧ r.ForShare "PUT" tenant ∧
    (w.act setup now action).value.1 = .response ⟨200, body⟩

variable {setup : Setup} {w : World} {now fallback : Nat} {tenant : Uuid} {percent : Int32}
  {row : Option TenantShare} {action : Action} {call : Http.Call} {r : Http.Request}

theorem value_act_request (setup : Setup) (w : World) (now : Nat) (r : Http.Request) :
    (w.act setup now (.request r)).value =
      (.response (Http.respond setup w now r).value.1, (Http.respond setup w now r).value.2) :=
  rfl

theorem replaces_request_iff : Replaces setup w now (.request r) tenant ↔
    r.ForShare "PUT" tenant ∧ (Http.respond setup w now r).value.1.status = 200 := by
  rw [Replaces, value_act_request]
  constructor
  · rintro ⟨r', body, hr, hput, hreply⟩
    cases hr
    rw [Reply.response.inj hreply]
    exact ⟨hput, rfl⟩
  · rintro ⟨hput, hs⟩
    refine ⟨r, (Http.respond setup w now r).value.1.body, rfl, hput, ?_⟩
    rw [← hs]

namespace Mirrors

theorem mapBackend {f : Backend → Backend} (h : w.Mirrors tenant fallback row)
    (hf : (f w.backend.store).Holds tenant row) :
    (w.mapBackend f).Mirrors tenant fallback row :=
  ⟨hf, h.fallback_eq, h.cached⟩

theorem after_answer (h : w.Mirrors tenant fallback row)
    (hn : ∀ percent, call = .putShare tenant percent →
      (Http.putShare w tenant percent).value.1.status ≠ 200) (setup : Setup) (now : Nat) :
    (Http.answer setup w now call).value.2.Mirrors tenant fallback row := by
  cases call with
  | declineCodes | checkPayment | statistics | readiness | liveness => exact h
  | getShare other =>
      have hread := h.after_cachedShare now other
      rwa [← Http.world_getShare] at hread
  | putShare other percent =>
      change (Http.putShare w other percent).value.2.Mirrors tenant fallback row
      by_cases hs : (Http.putShare w other percent).value.1.status = 200
      · have hother : other ≠ tenant := by
          rintro rfl
          exact hn percent rfl hs
        obtain ⟨ho, hok⟩ := Http.status_putShare_eq_200_iff.mp hs
        rw [Http.value_putShare_of_ok ho hok]
        exact h.after_putShare_of_ne hother
      · rw [Http.world_putShare_of_failed hs]
        exact h
  | decide attempt => exact h.after_decide setup now attempt
  | score attempt outcome => exact h.congr rfl rfl

theorem after_request (h : w.Mirrors tenant fallback row)
    (hr : ¬ Replaces setup w now (.request r) tenant) :
    (Http.respond setup w now r).value.2.Mirrors tenant fallback row := by
  cases hcall : r.call setup with
  | error refusal =>
      rw [Http.value_respond_of_refused hcall]
      exact h
  | ok call =>
      rw [Http.world_respond_of_call hcall]
      refine h.after_answer ?_ setup now
      rintro percent rfl hs
      obtain ⟨hput, -, -⟩ := Http.Request.grants_of_call hcall
      refine hr (replaces_request_iff.mpr ⟨hput, ?_⟩)
      rw [Http.value_respond_of_call hcall (hput.ne_head (by decide))]
      exact hs

/-- What does not replace the row keeps it mirrored. -/
theorem after_act (h : w.Mirrors tenant fallback row) (hb : ¬ action.Bypasses tenant)
    (hr : ¬ Replaces setup w now action tenant) :
    (w.act setup now action).value.2.Mirrors tenant fallback row := by
  cases action with
  | addPayment | setHistoryDown => exact h.mapBackend (h.holds.mapHistory _)
  | addPaymentMethod | setMethodsDown => exact h.mapBackend (h.holds.mapMethods _)
  | setFixedShare | cutStore | cutShares | score => exact h.congr rfl rfl
  | lastDecline | checkPayment | accountPayments | paymentByKey | paymentMethod => exact h
  | isPending | outcomes => exact h
  | storeShare written => exact h.mapBackend (h.holds.storeShare hb)
  | writeStore written => exact ⟨h.holds.write hb, h.fallback_eq, h.cached⟩
  | readStore other => exact ⟨h.holds.read other, h.fallback_eq, h.cached⟩
  | setDatabase db => exact absurd trivial hb
  | decide attempt => exact h.after_decide setup now attempt
  | share other => exact h.after_share setup now other
  | request r => exact h.after_request hr

theorem after_replacement (h : w.Mirrors tenant fallback row)
    (hr : Replaces setup w now (.request r) tenant) :
    ∃ percent, r.bodyRecord Json.Shape.shareUpdate = .ok percent ∧
      ¬ (percent < 0 ∨ 100 < percent) ∧
      (w.act setup now (.request r)).value.2.Mirrors tenant fallback (some ⟨tenant, percent⟩) := by
  obtain ⟨hput, hs⟩ := replaces_request_iff.mp hr
  obtain ⟨percent, hbody, hcall⟩ := Http.exists_call_of_accepted hput hs
  rw [Http.value_respond_of_call hcall (hput.ne_head (by decide))] at hs
  obtain ⟨ho, hok⟩ := Http.status_putShare_eq_200_iff.mp hs
  refine ⟨percent, hbody, ho, ?_⟩
  have hafter : (w.act setup now (.request r)).value.2 =
      (w.putShare ⟨tenant, percent⟩).value.2 := by
    rw [value_act_request, Http.world_respond_of_call hcall]
    exact congrArg Prod.snd (Http.value_putShare_of_ok ho hok)
  rw [hafter]
  exact h.after_putShare hok

end Mirrors

end World

end RetryTrial
