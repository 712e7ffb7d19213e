import RetryTrial.Proofs.Service.Lookup
import RetryTrial.Proofs.Service.Share

/-!
# The ways a decision goes

Without a verdict, or with a verdict and no share, the retry goes through and the gate is not asked.
With both the gate decides.
-/

namespace RetryTrial.World

variable {setup : Setup} {w : World} {now : Nat} {attempt : Attempt} {d : Decline} {share : Nat}
  {failure : Failure}

/-- The failure before the attempt is classified as this decline. -/
def Verdict (setup : Setup) (w : World) (attempt : Attempt) (d : Decline) : Prop :=
  Lookup.Verdict setup.classifier w.billing attempt.account attempt.paymentMethod attempt.tenant d

/-- What a verdict on the attempt needs could not be looked up. -/
def LookupFails (w : World) (attempt : Attempt) (failure : Failure) : Prop :=
  Lookup.Fails w.billing attempt.account attempt.paymentMethod attempt.tenant failure

theorem value_lastDecline_eq_some_iff :
    (w.lastDecline setup attempt.account attempt.paymentMethod attempt.tenant).value =
      .ok (some d) ↔ Verdict setup w attempt d :=
  Lookup.value_lastDecline_eq_some_iff

theorem value_lastDecline_eq_error_iff (setup : Setup) :
    (w.lastDecline setup attempt.account attempt.paymentMethod attempt.tenant).value =
      .error failure ↔ LookupFails w attempt failure :=
  Lookup.value_lastDecline_eq_error_iff

theorem Verdict.not_lookupFails (h : Verdict setup w attempt d) :
    ¬ LookupFails w attempt failure := by
  intro hf
  rw [← value_lastDecline_eq_some_iff] at h
  rw [← value_lastDecline_eq_error_iff setup, h] at hf
  cases hf

/-- A lookup that the verdict needs fails, or, with a verdict, the one for the share. -/
def ConsultedFails (setup : Setup) (w : World) (now : Nat) (attempt : Attempt) : Prop :=
  (∃ failure, LookupFails w attempt failure) ∨
    ∃ d failure, Verdict setup w attempt d ∧
      (w.share setup now attempt.tenant).value.1 = .error failure

theorem not_reached_iff :
    (¬ ∃ d share, Verdict setup w attempt d ∧
        (w.share setup now attempt.tenant).value.1 = .ok share) ↔
      ConsultedFails setup w now attempt ∨ ∀ d, ¬ Verdict setup w attempt d := by
  constructor
  · intro h
    by_cases hv : ∃ d, Verdict setup w attempt d
    · obtain ⟨d, hv⟩ := hv
      cases hs : (w.share setup now attempt.tenant).value.1 with
      | error failure => exact Or.inl (Or.inr ⟨d, failure, hv, hs⟩)
      | ok share => exact absurd ⟨d, share, hv, hs⟩ h
    · exact Or.inr (not_exists.mp hv)
  · rintro ((⟨failure, hf⟩ | ⟨d, failure, hv, hs⟩) | hn) ⟨d', share, hv', hs'⟩
    · exact hv'.not_lookupFails hf
    · rw [hs] at hs'
      cases hs'
    · exact hn d' hv'

theorem decide_of_lookupFails (h : LookupFails w attempt failure) (setup : Setup) (now : Nat) :
    w.decide setup now attempt =
      w.lastDecline setup attempt.account attempt.paymentMethod attempt.tenant >>= fun _ =>
        Traced.log
          (.allowedUnclassified attempt.id attempt.account attempt.paymentMethod failure) >>=
            fun _ => pure (.allow, w) := by
  rw [← value_lastDecline_eq_error_iff setup] at h
  ext <;> simp [World.decide, h]

theorem decide_of_unclassified (hv : ∀ d, ¬ Verdict setup w attempt d)
    (hf : ∀ failure, ¬ LookupFails w attempt failure) (now : Nat) :
    w.decide setup now attempt =
      w.lastDecline setup attempt.account attempt.paymentMethod attempt.tenant >>= fun _ =>
        pure (.allow, w) := by
  rcases ha : (w.lastDecline setup attempt.account attempt.paymentMethod attempt.tenant).value with
    failure | _ | d
  · exact absurd ((value_lastDecline_eq_error_iff setup).mp ha) (hf failure)
  · ext <;> simp [World.decide, ha]
  · exact absurd (value_lastDecline_eq_some_iff.mp ha) (hv d)

theorem decide_of_verdict (h : Verdict setup w attempt d) (now : Nat) :
    w.decide setup now attempt =
      w.lastDecline setup attempt.account attempt.paymentMethod attempt.tenant >>= fun _ =>
        w.decideClassified setup now attempt d := by
  rw [← value_lastDecline_eq_some_iff] at h
  ext <;> simp [World.decide, h]

theorem decideClassified_of_error
    (hs : (w.share setup now attempt.tenant).value.1 = .error failure) (d : Decline) :
    w.decideClassified setup now attempt d =
      w.share setup now attempt.tenant >>= fun _ =>
        Traced.log (.allowedWithoutShare attempt.id attempt.tenant failure) >>= fun _ =>
          pure (.allow, w) := by
  have hw := congrArg Prod.snd (value_share_of_error hs)
  ext <;> simp [decideClassified, hs, hw]

theorem decideClassified_of_ok
    (hs : (w.share setup now attempt.tenant).value.1 = .ok share) (d : Decline) :
    w.decideClassified setup now attempt d =
      w.share setup now attempt.tenant >>= fun answer =>
        w.gate.decide setup.draws attempt.id (some d) share >>= fun decided =>
          pure (decided.1, { answer.2 with gate := decided.2 }) := by
  ext <;> simp [decideClassified, hs]

theorem value_decide_of_share (hv : Verdict setup w attempt d)
    (hs : (w.share setup now attempt.tenant).value.1 = .ok share) :
    (w.decide setup now attempt).value =
      ((w.gate.decide setup.draws attempt.id (some d) share).value.1,
        { (w.share setup now attempt.tenant).value.2 with
          gate := (w.gate.decide setup.draws attempt.id (some d) share).value.2 }) := by
  rw [decide_of_verdict hv, decideClassified_of_ok hs]
  rfl

/-- Without a verdict, or without a share for it, the retry goes through and nothing changes. -/
theorem value_decide_of_not_reached
    (h : ¬ ∃ d share, Verdict setup w attempt d ∧
      (w.share setup now attempt.tenant).value.1 = .ok share) :
    (w.decide setup now attempt).value = (.allow, w) := by
  by_cases hf : ∃ failure, LookupFails w attempt failure
  · obtain ⟨failure, hf⟩ := hf
    rw [decide_of_lookupFails hf]
    rfl
  by_cases hv : ∃ d, Verdict setup w attempt d
  · obtain ⟨d, hv⟩ := hv
    cases hs : (w.share setup now attempt.tenant).value.1 with
    | error failure =>
        rw [decide_of_verdict hv, decideClassified_of_error hs]
        rfl
    | ok share => exact absurd ⟨d, share, hv, hs⟩ h
  · rw [decide_of_unclassified (not_exists.mp hv) (not_exists.mp hf)]
    rfl

end RetryTrial.World
