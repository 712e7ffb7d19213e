import RetryTrial.Proofs.Http.Errors
import RetryTrial.Proofs.Session.Run

/-!
# Whose requests change decisions

The gate and the stored shares are changed by three handlers alone, and each of them is guarded by a
key under its own header. A request to one of them without the key is answered with 401 before
anything else in it is looked at, so it can be left out of a session; what it carries under the
header of the other key is of no account.
-/

namespace RetryTrial.Http

def SameName (a b : String) : Prop := a.toList.map Char.toLower = b.toList.map Char.toLower

instance (a b : String) : Decidable (SameName a b) :=
  inferInstanceAs (Decidable (a.toList.map Char.toLower = b.toList.map Char.toLower))

theorem not_sameName_header {guard other : Guard} (h : other ≠ guard) :
    ¬ SameName guard.header other.header := by
  cases guard with
  | admin =>
      cases other with
      | admin => exact absurd rfl h
      | internal => decide
  | internal =>
      cases other with
      | admin => decide
      | internal => exact absurd rfl h

def Call.guard? : Call → Option Guard
  | putShare .. => some .admin
  | decide _ | score .. => some .internal
  | declineCodes .. | checkPayment .. | statistics | readiness | liveness | getShare _ => none

theorem Target.ofSegments_eq_share_iff {segments : List String} {tenant : String} :
    ofSegments segments = .share tenant ↔
      tenant ≠ "" ∧ segments = ["", "experiment-config", tenant] := by
  constructor
  · intro h
    unfold ofSegments at h
    split at h <;> try cases h
    split at h
    · cases h
    · cases h
      exact ⟨‹_›, rfl⟩
  · rintro ⟨hne, rfl⟩
    exact if_neg hne

theorem Target.ofSegments_eq_decide_iff {segments : List String} :
    ofSegments segments = .decide ↔ segments = ["", "retries", "decide"] := by
  constructor
  · intro h
    unfold ofSegments at h
    split at h <;> try cases h
    · split at h <;> cases h
    · rfl
  · rintro rfl
    rfl

theorem Target.ofSegments_eq_outcome_iff {segments : List String} {attempt : String} :
    ofSegments segments = .outcome attempt ↔ segments = ["", "retries", attempt, "outcome"] := by
  constructor
  · intro h
    unfold ofSegments at h
    split at h <;> try cases h
    · split at h <;> cases h
    · rfl
  · rintro rfl
    simp only [ofSegments]

namespace Request

/-- This is the first value that the request gives under a header of this name. -/
def FirstValue (r : Request) (name value : String) : Prop :=
  ∃ before given after, r.headers = before ++ (given, value) :: after ∧ SameName given name ∧
    ∀ header ∈ before, ¬ SameName header.1 name

/-- The request carries a key under the header of its guard. No request carries the empty key. -/
def Carries (r : Request) (guard : Guard) (key : String) : Prop :=
  key ≠ "" ∧ r.FirstValue guard.header key

/-- The request is for one of the handlers that need this key. -/
def Needs (r : Request) : Guard → Prop
  | .admin =>
    r.method = "PUT" ∧ ∃ tenant, tenant ≠ "" ∧ r.segments = ["", "experiment-config", tenant]
  | .internal =>
    r.method = "POST" ∧ (r.segments = ["", "retries", "decide"] ∨
      ∃ attempt, r.segments = ["", "retries", attempt, "outcome"])

def without (r : Request) (name : String) : Request :=
  { r with headers := r.headers.filter fun header => ¬ SameName header.1 name }

variable {r : Request} {guard other : Guard} {name key : String} {setup : Setup} {call : Call}

theorem header?_eq (r : Request) (name : String) :
    r.header? name = (r.headers.find? fun header => SameName header.1 name).bind fun header =>
      if header.2.toList.all isHeaderChar then some header.2 else none := by
  have hsame : (fun header : String × String => decide (SameName header.1 name)) =
      fun header => header.1.toList.map Char.toLower == name.toList.map Char.toLower := by
    funext header
    exact (beq_eq_decide _ _).symm
  rw [hsame]
  cases hfind : r.headers.find? fun header =>
      header.1.toList.map Char.toLower == name.toList.map Char.toLower with
  | none =>
      unfold header?
      simp only [hfind, Option.bind_none]
  | some header =>
      unfold header?
      simp only [hfind, Option.bind_some]

theorem firstValue_of_header? {value : String} (h : r.header? name = some value) :
    r.FirstValue name value := by
  rw [header?_eq, Option.bind_eq_some_iff] at h
  obtain ⟨⟨given, found⟩, hfind, hfound⟩ := h
  obtain ⟨hsame, before, after, hheaders, hbefore⟩ := List.find?_eq_some_iff_append.mp hfind
  obtain rfl : found = value := by
    split at hfound
    · exact Option.some.inj hfound
    · cases hfound
  refine ⟨before, given, after, hheaders, of_decide_eq_true hsame, ?_⟩
  intro header hmem
  simpa using hbefore header hmem

theorem carries_of_hasKey (h : r.hasKey guard.header key = true) : r.Carries guard key := by
  obtain ⟨hne, hheader⟩ := hasKey_iff.mp h
  exact ⟨hne, firstValue_of_header? hheader⟩

theorem Carries.exists_header (h : r.Carries guard key) :
    ∃ header ∈ r.headers, SameName header.1 guard.header := by
  obtain ⟨-, before, given, after, hheaders, hname, -⟩ := h
  exact ⟨(given, key), by simp [hheaders], hname⟩

theorem header?_without (r : Request) {dropped : String} (h : ¬ SameName name dropped) :
    (r.without dropped).header? name = r.header? name := by
  rw [header?_eq, header?_eq, without, List.find?_filter]
  congr 2
  funext header
  by_cases hname : SameName header.1 name
  · have hkept : ¬ SameName header.1 dropped := fun hd => h (hname.symm.trans hd)
    simp [hname, hkept]
  · simp [hname]

theorem requireKey_without (r : Request) (setup : Setup) (h : other ≠ guard) :
    (r.without other.header).requireKey setup guard = r.requireKey setup guard := by
  have hkey : (r.without other.header).hasKey guard.header (setup.key guard) =
      r.hasKey guard.header (setup.key guard) := by
    simp only [hasKey, r.header?_without (not_sameName_header h)]
  rw [requireKey, requireKey, hkey]

theorem bodyRecord_without {α : Type} (r : Request) (guard : Guard) (shape : Json.Shape α) :
    (r.without guard.header).bodyRecord shape = r.bodyRecord shape := by
  have hcontent : ¬ SameName "Content-Type" guard.header := by cases guard <;> decide
  simp only [bodyRecord, r.header?_without hcontent]
  rfl

theorem call_of_decide (h : r.leadsTo = .decide) (setup : Setup) :
    r.call setup = (do
      r.requireKey setup .internal
      requireMethod (r.method == "POST")
      let attempt ← r.bodyRecord Json.Shape.attempt
      return .decide attempt) := by
  rw [Request.call, h]

theorem call_of_outcome {segment : String} (h : r.leadsTo = .outcome segment) (setup : Setup) :
    r.call setup = (do
      r.requireKey setup .internal
      requireMethod (r.method == "POST")
      let attempt ← pathUuid segment
      let outcome ← r.bodyRecord Json.Shape.outcomeReport
      return .score attempt outcome) := by
  rw [Request.call, h]

theorem call_of_share {segment : String} (h : r.leadsTo = .share segment)
    (hm : r.method = "PUT") (setup : Setup) :
    r.call setup = (do
      r.requireKey setup .admin
      requireMethod (r.method == "PUT")
      let tenant ← pathUuid segment
      let percent ← r.bodyRecord Json.Shape.shareUpdate
      return .putShare tenant percent) := by
  have hread : r.isRead = false := by simp [isRead, hm]
  rw [Request.call, h]
  simp only [hread, Bool.false_eq_true, if_false]

/-- A handler that needs a key checks it before it looks at anything else. -/
theorem call_of_not_hasKey (h : r.Needs guard)
    (hk : r.hasKey guard.header (setup.key guard) = false) :
    r.call setup = .error (.unauthorized guard) := by
  have hkey : r.requireKey setup guard = .error (.unauthorized guard) := by simp [requireKey, hk]
  cases guard with
  | admin =>
      obtain ⟨hm, tenant, htenant⟩ := h
      rw [call_of_share (Target.ofSegments_eq_share_iff.mpr htenant) hm, hkey]
      rfl
  | internal =>
      obtain ⟨-, hd | ⟨attempt, ho⟩⟩ := h
      · rw [call_of_decide (Target.ofSegments_eq_decide_iff.mpr hd), hkey]
        rfl
      · rw [call_of_outcome (Target.ofSegments_eq_outcome_iff.mpr ho), hkey]
        rfl

theorem call_without (h : r.Needs guard) (hother : other ≠ guard) (setup : Setup) :
    (r.without other.header).call setup = r.call setup := by
  have hkey := r.requireKey_without setup hother
  cases guard with
  | admin =>
      obtain ⟨hm, tenant, htenant⟩ := h
      have hleads := Target.ofSegments_eq_share_iff.mpr htenant
      rw [call_of_share hleads hm, call_of_share (r := r.without other.header) hleads hm, hkey,
        bodyRecord_without]
      rfl
  | internal =>
      obtain ⟨-, hd | ⟨attempt, ho⟩⟩ := h
      · have hleads := Target.ofSegments_eq_decide_iff.mpr hd
        rw [call_of_decide hleads, call_of_decide (r := r.without other.header) hleads, hkey,
          bodyRecord_without]
        rfl
      · have hleads := Target.ofSegments_eq_outcome_iff.mpr ho
        rw [call_of_outcome hleads, call_of_outcome (r := r.without other.header) hleads, hkey,
          bodyRecord_without]
        rfl

/-- What is read as a call that needs a key carries it. -/
theorem needs_of_call (h : r.call setup = .ok call) (hguard : call.guard? = some guard) :
    r.Needs guard ∧ r.hasKey guard.header (setup.key guard) = true := by
  have hgrants := grants_of_call h
  cases call with
  | putShare tenant percent =>
      cases hguard
      obtain ⟨⟨hm, segment, hleads, -⟩, hkey, -⟩ := hgrants
      exact ⟨⟨hm, segment, Target.ofSegments_eq_share_iff.mp hleads⟩, hkey⟩
  | decide attempt =>
      cases hguard
      obtain ⟨⟨hm, hleads, -⟩, hkey⟩ := hgrants
      exact ⟨⟨hm, Or.inl (Target.ofSegments_eq_decide_iff.mp hleads)⟩, hkey⟩
  | score attempt outcome =>
      cases hguard
      obtain ⟨⟨hm, ⟨segment, hleads, -⟩, -⟩, hkey⟩ := hgrants
      exact ⟨⟨hm, Or.inr ⟨segment, Target.ofSegments_eq_outcome_iff.mp hleads⟩⟩, hkey⟩
  | declineCodes | checkPayment | statistics | readiness | liveness | getShare => cases hguard

end Request

variable {setup : Setup} {r : Request} {call : Call} {guard other : Guard}

/-- What decisions depend on is as before: the gate, and the rows that are stored or that a database
has been asked to write. -/
structure KeepsDecisions (w : World) (answered : Traced (Response × World)) : Prop where
  gate : answered.value.2.gate = w.gate
  rows : ∀ tenant, answered.value.2.storedRow tenant = w.storedRow tenant
  readOnly : answered.ReadOnly

theorem keepsDecisions_answer (h : call.guard? = none) (setup : Setup) (w : World) (now : Nat) :
    KeepsDecisions w (answer setup w now call) := by
  cases call with
  | declineCodes | statistics | liveness => exact ⟨rfl, fun _ => rfl, Traced.readOnly_pure _⟩
  | checkPayment externalKey tenant =>
      have hcheck := readOnly_checkPayment setup w externalKey tenant
      exact ⟨rfl, fun _ => rfl, by simpa [answer] using hcheck⟩
  | readiness =>
      have hcheck := readOnly_checkReadiness setup w
      exact ⟨rfl, fun _ => rfl, by simpa [answer] using hcheck⟩
  | getShare tenant =>
      have hworld : (answer setup w now (.getShare tenant)).value.2 =
          (w.cachedShare now tenant).value.2 := world_getShare w now tenant
      refine ⟨by rw [hworld, World.gate_cachedShare], ?_, readOnly_getShare w now tenant⟩
      intro other
      rw [hworld, World.storedRow_cachedShare]
  | putShare | decide | score => cases h

/-- A request that does not keep what decisions depend on has been read as a call that needs a
key. -/
theorem exists_guard_of_changed {w : World} {now : Nat}
    (h : ¬ KeepsDecisions w (respond setup w now r)) :
    ∃ call guard, r.call setup = .ok call ∧ call.guard? = some guard := by
  cases hcall : r.call setup with
  | error refusal =>
      refine absurd ⟨?_, ?_, ?_⟩ h
      · rw [value_respond_of_refused hcall]
      · intro tenant
        rw [value_respond_of_refused hcall]
      · simp [Traced.ReadOnly, queries_respond_of_refused hcall]
  | ok call =>
      cases hguard : call.guard? with
      | some guard => exact ⟨call, guard, rfl, hguard⟩
      | none =>
          obtain ⟨hgate, hrows, hreadOnly⟩ := keepsDecisions_answer hguard setup w now
          refine absurd ⟨?_, ?_, ?_⟩ h
          · rw [world_respond_of_call hcall, hgate]
          · intro tenant
            rw [world_respond_of_call hcall, hrows]
          · rwa [Traced.ReadOnly, queries_respond_of_call hcall]

theorem value_respond_of_not_carries (h : r.Needs guard)
    (hkey : ¬ r.Carries guard (setup.key guard)) (w : World) (now : Nat) :
    (respond setup w now r).value = (⟨401, .text "unauthorized"⟩, w) := by
  have hk : r.hasKey guard.header (setup.key guard) = false := by
    rw [Bool.eq_false_iff]
    exact fun hk => hkey (Request.carries_of_hasKey hk)
  exact value_respond_of_refused (Request.call_of_not_hasKey h hk) w now

theorem respond_without (h : r.Needs guard) (hother : other ≠ guard) (setup : Setup) (w : World)
    (now : Nat) : respond setup w now (r.without other.header) = respond setup w now r := by
  have hcall := Request.call_without h hother setup
  rw [respond, hcall]
  rfl

/-- A request changes what decisions depend on only if it is for a handler that needs a key, and
carries this key as the first value of its header. A request for such a handler that does not carry
the key is answered with 401 and can be left out of every session. What it carries in the header of
the other key makes no difference. -/
theorem only_key_holders_change_decisions (setup : Setup) (r : Request) :
    (∀ w now, ¬ KeepsDecisions w (respond setup w now r) →
      ∃ guard, r.Needs guard ∧ r.Carries guard (setup.key guard)) ∧
    ∀ guard, r.Needs guard →
      (¬ r.Carries guard (setup.key guard) →
        (∀ w now, (respond setup w now r).value = (⟨401, .text "unauthorized"⟩, w)) ∧
        ∀ start past now rest,
          (World.run setup start (past ++ (now, .request r) :: rest)).eraseIdx past.length =
            World.run setup start (past ++ rest)) ∧
      ∀ other, other ≠ guard → ∀ w now,
        respond setup w now (r.without other.header) = respond setup w now r := by
  constructor
  · intro w now hchanged
    obtain ⟨call, guard, hcall, hguard⟩ := exists_guard_of_changed hchanged
    obtain ⟨hneeds, hkey⟩ := Request.needs_of_call hcall hguard
    exact ⟨guard, hneeds, Request.carries_of_hasKey hkey⟩
  · intro guard hneeds
    refine ⟨?_, fun other hother w now => respond_without hneeds hother setup w now⟩
    intro hkey
    refine ⟨value_respond_of_not_carries hneeds hkey, ?_⟩
    intro start past now rest
    apply World.run_eraseIdx
    simp [World.act, value_respond_of_not_carries hneeds hkey]

def lineOpen : World := { cutOff with backend := ⟨.memory .empty .empty .empty, none⟩ }

/-- The request to set the share to 60, with the admin key in the wrong header. -/
def misplaced : Request :=
  { toSixty with
    headers := [("X-Internal-Api-Key", "admin"), ("Content-Type", "application/json")] }

theorem needs_misplaced : misplaced.Needs .admin :=
  ⟨rfl, "00000000-0000-0000-0000-000000000007", by decide, by decide⟩

/-- A request that replaces a share carries the admin key. With the key in the other header it is
answered with 401, and a run goes on as if it had not been made. -/
theorem replacement_needs_key :
    (¬ KeepsDecisions lineOpen (respond keyed lineOpen 1 toSixty) ∧
      ∃ guard, toSixty.Needs guard ∧ toSixty.Carries guard (keyed.key guard)) ∧
    (respond keyed lineOpen 1 misplaced).value = (⟨401, .text "unauthorized"⟩, lineOpen) ∧
    (World.run keyed lineOpen [(1, .request misplaced), (2, .share ⟨7⟩)]).eraseIdx 0 =
      World.run keyed lineOpen [(2, .share ⟨7⟩)] := by
  have hchanged : ¬ KeepsDecisions lineOpen (respond keyed lineOpen 1 toSixty) := by
    rintro ⟨-, hrows, -⟩
    have hbefore : lineOpen.storedRow ⟨7⟩ = .ok none := by decide
    have hafter : (respond keyed lineOpen 1 toSixty).value.2.storedRow ⟨7⟩ =
        .ok (some ⟨⟨7⟩, 60⟩) := by decide
    have hsame := hrows ⟨7⟩
    rw [hbefore, hafter] at hsame
    cases hsame
  have hmisplaced : ¬ misplaced.Carries .admin (keyed.key .admin) := by
    intro hcarries
    have hnone : ¬ ∃ header ∈ misplaced.headers, SameName header.1 Guard.admin.header := by decide
    exact hnone hcarries.exists_header
  obtain ⟨hanswer, hrun⟩ :=
    ((only_key_holders_change_decisions keyed misplaced).2 .admin needs_misplaced).1 hmisplaced
  refine ⟨⟨hchanged, ?_⟩, hanswer lineOpen 1, hrun lineOpen [] 1 [(2, .share ⟨7⟩)]⟩
  exact (only_key_holders_change_decisions keyed toSixty).1 lineOpen 1 hchanged

end RetryTrial.Http
