import RetryTrial.Proofs.Service.Decide
import RetryTrial.Proofs.Session.Run

/-!
# Failing open

A decision that does not reach the gate lets the retry through and leaves the world as it is, so it
can be left out of a session. It warns once if something that it asked for failed. What it does not
ask for has no part in it.
-/

namespace RetryTrial.World

variable {setup : Setup} {w : World} {now : Nat} {attempt : Attempt} {d : Decline}

theorem quiet_lastDecline (setup : Setup) (w : World) (account paymentMethod tenant : Uuid) :
    (w.lastDecline setup account paymentMethod tenant).Quiet :=
  Lookup.quiet_lastDecline w.backend.store.quiet_billing setup.classifier account paymentMethod
    tenant

theorem countP_warns_allowing (entries : List LogEntry) :
    entries.countP (LogEntry.warns "allowing retry") = entries.countP LogEntry.isFailOpen :=
  List.countP_congr fun e _ => by rw [LogEntry.warns_allowing]

theorem countP_warns_of_consultedFails (h : ConsultedFails setup w now attempt) :
    (w.decide setup now attempt).entries.countP (LogEntry.warns "allowing retry") = 1 := by
  rw [countP_warns_allowing]
  have hlast :=
    (quiet_lastDecline setup w attempt.account attempt.paymentMethod attempt.tenant).countP
  rcases h with ⟨failure, hf⟩ | ⟨d, failure, hv, hs⟩
  · rw [decide_of_lookupFails hf]
    simp [hlast, LogEntry.isFailOpen]
  · have hshare := (quiet_share setup w now attempt.tenant).countP
    rw [decide_of_verdict hv, decideClassified_of_error hs]
    simp [hlast, hshare, LogEntry.isFailOpen]

theorem countP_warns_of_not_consultedFails (h : ¬ ConsultedFails setup w now attempt) :
    (w.decide setup now attempt).entries.countP (LogEntry.warns "allowing retry") = 0 := by
  rw [ConsultedFails, not_or, not_exists] at h
  obtain ⟨hf, hs⟩ := h
  rw [countP_warns_allowing]
  apply Traced.Quiet.countP
  have hlast := quiet_lastDecline setup w attempt.account attempt.paymentMethod attempt.tenant
  by_cases hv : ∃ d, Verdict setup w attempt d
  · obtain ⟨d, hv⟩ := hv
    cases ha : (w.share setup now attempt.tenant).value.1 with
    | error failure => exact absurd ⟨d, failure, hv, ha⟩ hs
    | ok share =>
        rw [decide_of_verdict hv, decideClassified_of_ok ha]
        simp [hlast, quiet_share, Gate.quiet_decide]
  · rw [decide_of_unclassified (not_exists.mp hv) hf]
    simp [hlast]

theorem decide_congr_of_not_verdict {w' : World} (h : ∀ d, ¬ Verdict setup w attempt d)
    (hl : w'.lastDecline setup attempt.account attempt.paymentMethod attempt.tenant =
      w.lastDecline setup attempt.account attempt.paymentMethod attempt.tenant) (now now' : Nat) :
    w'.decide setup now' attempt =
      ⟨(.allow, w'), (w.decide setup now attempt).events⟩ := by
  have h' : ∀ d, ¬ Verdict setup w' attempt d := by
    intro d
    rw [← value_lastDecline_eq_some_iff, hl, value_lastDecline_eq_some_iff]
    exact h d
  by_cases hf : ∃ failure, LookupFails w attempt failure
  · obtain ⟨failure, hf⟩ := hf
    have hf' : LookupFails w' attempt failure := by
      rw [← value_lastDecline_eq_error_iff setup] at hf ⊢
      rw [hl, hf]
    rw [decide_of_lookupFails hf, decide_of_lookupFails hf', hl]
    rfl
  · have hf' : ∀ failure, ¬ LookupFails w' attempt failure := by
      intro failure
      rw [← value_lastDecline_eq_error_iff setup, hl, value_lastDecline_eq_error_iff]
      exact not_exists.mp hf failure
    rw [decide_of_unclassified h (not_exists.mp hf), decide_of_unclassified h' hf', hl]
    rfl

theorem not_verdict_of_not_reported
    (h : ∀ failed report, ¬ Lookup.Reported w.billing attempt.account attempt.paymentMethod
      attempt.tenant failed report) (d : Decline) : ¬ Verdict setup w attempt d := by
  rintro ⟨failed, report, method, hr, -, -⟩
  exact h failed report hr

theorem attempted_decide_of_share {share : Nat} (hv : Verdict setup w attempt d)
    (hs : (w.share setup now attempt.tenant).value.1 = .ok share) :
    (w.decide setup now attempt).value.2.gate.attempted = w.gate.attempted + 1 := by
  rw [value_decide_of_share hv hs]
  cases h : w.gate.nextGroup setup.draws share with
  | treatment => rw [Gate.value_decide_of_treatment h]
  | control => rw [Gate.value_decide_of_control h]

/-- What does not reach the gate leaves no trace but, if something asked for failed, one warning. -/
theorem decide_fails_open (setup : Setup) (w : World) (now : Nat) (attempt : Attempt) :
    (ConsultedFails setup w now attempt ∨ (∀ d, ¬ Verdict setup w attempt d) →
      (w.decide setup now attempt).value = (.allow, w) ∧
      ∀ start past rest, start.after setup past = w →
        (run setup start (past ++ (now, .decide attempt) :: rest)).eraseIdx past.length =
          run setup start (past ++ rest)) ∧
    (¬ (ConsultedFails setup w now attempt ∨ ∀ d, ¬ Verdict setup w attempt d) →
      (w.decide setup now attempt).value.2.gate.attempted = w.gate.attempted + 1) ∧
    (ConsultedFails setup w now attempt →
      (w.decide setup now attempt).entries.countP (LogEntry.warns "allowing retry") = 1) ∧
    (¬ ConsultedFails setup w now attempt →
      (w.decide setup now attempt).entries.countP (LogEntry.warns "allowing retry") = 0) ∧
    ((∀ failed report, ¬ Lookup.Reported w.billing attempt.account attempt.paymentMethod
        attempt.tenant failed report) →
      ∀ (w' : World) (now' : Nat),
        w'.billing.accountPayments attempt.account attempt.tenant =
          w.billing.accountPayments attempt.account attempt.tenant →
        w'.decide setup now' attempt = ⟨(.allow, w'), (w.decide setup now attempt).events⟩) ∧
    ((∀ d, ¬ Verdict setup w attempt d) →
      ∀ (w' : World) (now' : Nat),
        w'.billing.accountPayments attempt.account attempt.tenant =
          w.billing.accountPayments attempt.account attempt.tenant →
        w'.billing.paymentMethod attempt.paymentMethod attempt.tenant =
          w.billing.paymentMethod attempt.paymentMethod attempt.tenant →
        w'.decide setup now' attempt = ⟨(.allow, w'), (w.decide setup now attempt).events⟩) := by
  refine ⟨?_, ?_, countP_warns_of_consultedFails, countP_warns_of_not_consultedFails, ?_, ?_⟩
  · intro h
    have hvalue := value_decide_of_not_reached (not_reached_iff.mpr h)
    refine ⟨hvalue, ?_⟩
    rintro start past rest rfl
    apply run_eraseIdx
    simp [act, hvalue]
  · intro h
    rw [← not_reached_iff, Classical.not_not] at h
    obtain ⟨d, share, hv, hs⟩ := h
    exact attempted_decide_of_share hv hs
  · intro h w' now' hp
    exact decide_congr_of_not_verdict (not_verdict_of_not_reported h)
      (Lookup.lastDecline_congr_of_not_reported h hp) now now'
  · intro h w' now' hp hm
    exact decide_congr_of_not_verdict h (Lookup.lastDecline_congr hp hm) now now'

end RetryTrial.World
