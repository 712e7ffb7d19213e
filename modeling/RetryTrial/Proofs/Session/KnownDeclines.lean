import RetryTrial.Proofs.Decline.Classification
import RetryTrial.Proofs.Gate.Provenance
import RetryTrial.Proofs.Http.Requests
import RetryTrial.Proofs.Service.Decide
import RetryTrial.Proofs.Service.Probe
import RetryTrial.Proofs.Service.Reading
import RetryTrial.Proofs.Session.Run

/-!
# Statistics name known declines

Whatever is done in a session, the gate is handed verdicts of the classifier and nothing else. So a
pending decline is one that the table lists for a routed plugin, or a guess that names a processor
with a route, and every bucket of the statistics has the processor of a route and a code that is
listed for it or marks a guess.
-/

namespace RetryTrial

namespace Table

/-- The decline is listed for a routed plugin, or it is a guess for one. -/
def Knows (table : Table) (d : Decline) : Prop :=
  (∃ plugin, table.lookup? plugin d.code = some d) ∨
    d.code = 0 ∧ ∃ plugin, table.processorFor? plugin = some d.processor

/-- Some route leads to the processor, and its codes, by every such route, have this one, unless the
code is that of a guess. -/
structure Names (table : Table) (b : Bucket) : Prop where
  targeted : ∃ plugin, table.processorFor? plugin = some b.processor
  listed : b.code = 0 ∨ ∀ plugin, table.processorFor? plugin = some b.processor →
    ∃ d, table.lookup? plugin b.code = some d

variable {registrations : List Registration} {plugin other : String} {number : Int32} {d : Decline}

/-- Routes to one processor share its codes. -/
theorem lookup?_build_of_processorFor?
    (h : (build registrations).value.lookup? plugin number = some d)
    (ho : (build registrations).value.processorFor? other = some d.processor) :
    (build registrations).value.lookup? other number = some d := by
  obtain ⟨name, rows, row, -, hrows, hrow, rfl⟩ := lookup?_build_eq_some_iff.mp h
  have htargets : Targets registrations other name := processorFor?_build_eq_some_iff.mp ho
  exact lookup?_build_eq_some_iff.mpr ⟨name, rows, row, htargets, hrows, hrow, rfl⟩

theorem Knows.names_bucket (h : (build registrations).value.Knows d) :
    (build registrations).value.Names (Gate.bucket d) := by
  rcases h with ⟨plugin, hl⟩ | ⟨hzero, htargeted⟩
  · have hp := (code_and_processor_of_lookup?_build hl).2
    exact ⟨⟨plugin, hp⟩, Or.inr fun other ho => ⟨d, lookup?_build_of_processorFor? hl ho⟩⟩
  · exact ⟨htargeted, Or.inl hzero⟩

end Table

theorem Classifier.knows_of_classify {registrations : List Registration} {matcher : Matcher}
    {plugin : String} {code message : Option String} {d : Decline}
    (h : (classify ⟨(Table.build registrations).value, matcher⟩ plugin code message).value =
      some d) : (Table.build registrations).value.Knows d := by
  rcases value_classify_eq_some_iff.mp h with ⟨s, number, -, -, hl⟩ | ⟨-, guess⟩
  · obtain ⟨rfl, -⟩ := Table.code_and_processor_of_lookup?_build hl
    exact Or.inl ⟨plugin, hl⟩
  · obtain ⟨processor, m, rule, hp, -, -, rfl⟩ := guess
    exact Or.inr ⟨rfl, plugin, hp⟩

namespace World

variable {setup : Setup} {w : World} {now : Nat}

/-- What can become of the gate in one action: it stays as it is, it decides on an attempt that the
classifier has a verdict on, or it scores an outcome. -/
inductive GateStep (setup : Setup) (w : World) : Gate → Prop
  | kept : GateStep setup w w.gate
  | decided {attempt : Attempt} {d : Decline} (h : Verdict setup w attempt d) (share : Nat) :
      GateStep setup w (w.gate.decide setup.draws attempt.id (some d) share).value.2
  | scored (attempt : Uuid) (outcome : Outcome) :
      GateStep setup w (w.gate.score attempt outcome).value.2

theorem gateStep_of_eq {gate : Gate} (h : gate = w.gate) : GateStep setup w gate := by
  rw [h]
  exact GateStep.kept

theorem gateStep_decide (setup : Setup) (w : World) (now : Nat) (attempt : Attempt) :
    GateStep setup w (w.decide setup now attempt).value.2.gate := by
  by_cases hreached : ∃ d share, Verdict setup w attempt d ∧
      (w.share setup now attempt.tenant).value.1 = .ok share
  · obtain ⟨d, share, hv, hs⟩ := hreached
    rw [value_decide_of_share hv hs]
    exact GateStep.decided hv share
  · rw [value_decide_of_not_reached hreached]
    exact GateStep.kept

theorem gateStep_answer (setup : Setup) (w : World) (now : Nat) (call : Http.Call) :
    GateStep setup w (Http.answer setup w now call).value.2.gate := by
  cases call with
  | declineCodes | checkPayment | statistics | readiness | liveness => exact GateStep.kept
  | getShare tenant =>
      have hgate : (Http.getShare w now tenant).value.2.gate = w.gate := by
        rw [Http.world_getShare, gate_cachedShare]
      exact gateStep_of_eq hgate
  | putShare tenant percent => exact gateStep_of_eq (Http.gate_putShare w tenant percent)
  | decide attempt => exact gateStep_decide setup w now attempt
  | score attempt outcome => exact GateStep.scored attempt outcome

theorem gateStep_respond (setup : Setup) (w : World) (now : Nat) (r : Http.Request) :
    GateStep setup w (Http.respond setup w now r).value.2.gate := by
  cases hcall : r.call setup with
  | error refusal =>
      rw [Http.value_respond_of_refused hcall]
      exact GateStep.kept
  | ok call =>
      rw [Http.world_respond_of_call hcall]
      exact gateStep_answer setup w now call

theorem gateStep_act (setup : Setup) (w : World) (now : Nat) (action : Action) :
    GateStep setup w (w.act setup now action).value.2.gate := by
  cases action with
  | addPayment | addPaymentMethod | setHistoryDown | setMethodsDown => exact GateStep.kept
  | setFixedShare | storeShare | cutStore | cutShares | setDatabase => exact GateStep.kept
  | lastDecline | checkPayment | accountPayments | paymentByKey => exact GateStep.kept
  | paymentMethod | isPending | outcomes | readStore | writeStore => exact GateStep.kept
  | decide attempt => exact gateStep_decide setup w now attempt
  | score attempt outcome => exact GateStep.scored attempt outcome
  | share tenant => exact gateStep_of_eq (gate_share setup w now tenant)
  | request r => exact gateStep_respond setup w now r

section Known

variable {registrations : List Registration} {matcher : Matcher}

theorem Verdict.known {attempt : Attempt} {d : Decline} (h : Verdict setup w attempt d)
    (hc : setup.classifier = ⟨(Table.build registrations).value, matcher⟩) :
    (Table.build registrations).value.Knows d := by
  obtain ⟨failed, report, method, -, -, hclassified⟩ := h
  rw [hc] at hclassified
  exact Classifier.knows_of_classify hclassified

/-- One action hands the gate nothing but known declines. -/
theorem GateStep.stems {gate : Gate} (h : GateStep setup w gate)
    (hc : setup.classifier = ⟨(Table.build registrations).value, matcher⟩)
    (hw : w.gate.Stems (Table.build registrations).value.Knows) :
    gate.Stems (Table.build registrations).value.Knows := by
  cases h with
  | kept => exact hw
  | decided hv share => exact hw.decide (hv.known hc) _ _ share
  | scored attempt outcome => exact hw.score attempt outcome

theorem stems_after (hc : setup.classifier = ⟨(Table.build registrations).value, matcher⟩)
    (hw : w.gate.Stems (Table.build registrations).value.Knows) (steps : List (Nat × Action)) :
    (w.after setup steps).gate.Stems (Table.build registrations).value.Knows := by
  induction steps generalizing w with
  | nil => exact hw
  | cons step steps ih => exact ih ((gateStep_act setup w step.1 step.2).stems hc hw)

end Known

/-- In every state that a service over a built table reaches from a fresh gate, each pending decline
is one that the table lists for a routed plugin or a guess for the processor of a route. Each bucket
of the statistics has the processor of a route and either the code of a guess or one that the
processor's codes have, and counts at least one outcome. -/
theorem statistics_name_known_declines (registrations : List Registration) (matcher : Matcher)
    (setup : Setup) (w : World) (steps : List (Nat × Action))
    (hc : setup.classifier = ⟨(Table.build registrations).value, matcher⟩)
    (hw : w.gate = .fresh) :
    let table := (Table.build registrations).value
    let gate := (w.after setup steps).gate
    (∀ attempt d, gate.pending.get? attempt = some d →
      (∃ plugin, table.lookup? plugin d.code = some d) ∨
        d.code = 0 ∧ ∃ plugin, table.processorFor? plugin = some d.processor) ∧
    ∀ processor codes, (processor, codes) ∈ gate.outcomes.snapshot →
      ∀ code t, (code, t) ∈ codes →
        (∃ plugin, table.processorFor? plugin = some processor) ∧
        (code = 0 ∨ ∀ plugin, table.processorFor? plugin = some processor →
          ∃ d, table.lookup? plugin code = some d) ∧
        1 ≤ t.succeeded + t.failed := by
  intro table gate
  have hstart : w.gate.Stems table.Knows := by
    rw [hw]
    exact Gate.Stems.fresh _
  have hreached : gate.Stems table.Knows := stems_after hc hstart steps
  refine ⟨hreached.pending, ?_⟩
  intro processor codes hsnapshot code t hcode
  have htally := Outcomes.get?_of_mem_snapshot hsnapshot hcode
  obtain ⟨hpositive, d, hknown, hbucket⟩ := hreached.scored _ t htally
  have hnames := hknown.names_bucket
  rw [hbucket] at hnames
  exact ⟨hnames.targeted, hnames.listed, hpositive⟩

def keywordSetup : Setup := { oneCodeSetup with classifier := ⟨oneCode.table, .standard⟩ }

def suspectedPayment : Payment :=
  { failedPayment with
    transactions :=
      [⟨⟨13⟩, "c", .authorize, .paymentFailure, none, none,
        some ⟨some "9", some "Suspected FRAUD", ∅⟩⟩] }

/-- Before the outcome of the first attempt comes in, another payment has failed. -/
def overtaken : List (Nat × Action) :=
  [(0, .setFixedShare ⟨7⟩ 0), (1, .decide ⟨⟨1⟩, ⟨8⟩, ⟨9⟩, ⟨7⟩⟩), (2, .addPayment suspectedPayment),
    (3, .decide ⟨⟨2⟩, ⟨8⟩, ⟨9⟩, ⟨7⟩⟩), (4, .score ⟨1⟩ .success)]

/-- The outcome is counted under the listed code, while the guess is pending. -/
theorem listed_scored_guess_pending :
    let gate := ((worldOf [failedPayment]).after keywordSetup overtaken).gate
    gate.outcomes.snapshot = [("Braintree", [(2004, ⟨1, 0⟩)])] ∧
      gate.pending.get? ⟨2⟩ = some ⟨"Braintree", 0, "Suspected FRAUD", .fraud, false⟩ ∧
      (∃ plugin, oneCode.table.processorFor? plugin = some "Braintree") ∧
      ∀ plugin, oneCode.table.processorFor? plugin = some "Braintree" →
        ∃ d, oneCode.table.lookup? plugin 2004 = some d := by
  intro gate
  have hsnapshot : gate.outcomes.snapshot = [("Braintree", [(2004, ⟨1, 0⟩)])] := rfl
  have hpending : gate.pending.get? ⟨2⟩ =
      some ⟨"Braintree", 0, "Suspected FRAUD", .fraud, false⟩ := rfl
  have hknown := statistics_name_known_declines _ .standard keywordSetup (worldOf [failedPayment])
    overtaken rfl rfl
  obtain ⟨htargeted, hlisted, -⟩ := hknown.2 "Braintree" [(2004, ⟨1, 0⟩)] (by
    rw [hsnapshot]
    exact List.mem_singleton_self _) 2004 ⟨1, 0⟩ (List.mem_singleton_self _)
  exact ⟨hsnapshot, hpending, htargeted, hlisted.resolve_left (by decide)⟩

end World

end RetryTrial
