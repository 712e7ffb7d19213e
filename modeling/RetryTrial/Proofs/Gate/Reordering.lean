import RetryTrial.Proofs.Gate.Effect
import RetryTrial.Proofs.Gate.History

/-!
# The order of unrelated attempts

If the draw is always the same, all that an action looks at in a gate is the entry that its own
attempt has among the pending ones, and that entry is all it replaces there. So neighbouring actions
on different attempts may change places. Any two orders in which each attempt keeps its own actions
come from each other by such exchanges: they lead to the same gate, and each action is answered the
same way. Only the running counts in an answer tell the order.
-/

namespace RetryTrial

namespace Pending

theorem set_comm {a b : Uuid} (h : a ≠ b) (p : Pending) (d e : Option Decline) :
    (p.set a d).set b e = (p.set b e).set a d := by
  apply ext_get?
  intro c
  rw [get?_set, get?_set, get?_set, get?_set]
  by_cases hb : b = c
  · have ha : a ≠ c := fun hac => h (hac.trans hb.symm)
    rw [if_pos hb, if_neg ha, if_pos hb]
  · rw [if_neg hb, if_neg hb]

end Pending

theorem Tally.add_comm (t : Tally) (o p : Outcome) : (t.add o).add p = (t.add p).add o := by
  cases o <;> cases p <;> rfl

namespace Outcomes

theorem record_comm (o : Outcomes) (b c : Bucket) (x y : Outcome) :
    (o.record b x).record c y = (o.record c y).record b x := by
  apply ext_get?
  · intro p
    rw [mem_processors_record, mem_processors_record, mem_processors_record,
      mem_processors_record, or_left_comm]
  · intro k
    rw [get?_record, get?_record, get?_record, get?_record]
    by_cases hbc : b = c
    · subst hbc
      rw [tally_record_self, tally_record_self, Tally.add_comm]
      by_cases hk : b = k <;> simp only [hk, if_true, if_false]
    · rw [tally_record, tally_record, if_neg hbc, if_neg (Ne.symm hbc)]
      by_cases hck : c = k
      · have hbk : b ≠ k := fun hbk => hbc (hbk.trans hck.symm)
        rw [if_pos hck, if_neg hbk, if_pos hck]
      · rw [if_neg hck, if_neg hck]

theorem recordAny_comm (o : Outcomes) (x y : Option (Bucket × Outcome)) :
    (o.recordAny x).recordAny y = (o.recordAny y).recordAny x := by
  cases x with
  | none => rfl
  | some x =>
      cases y with
      | none => rfl
      | some y => exact o.record_comm x.1 y.1 x.2 y.2

end Outcomes

namespace Gate

theorem apply_comm {a b : Uuid} (h : a ≠ b) (g : Gate) (d e : Effect) :
    (g.apply a d).apply b e = (g.apply b e).apply a d := by
  unfold apply
  dsimp only
  rw [Pending.set_comm h, Outcomes.recordAny_comm, Nat.add_right_comm, Nat.add_right_comm g.aborted,
    Nat.add_right_comm g.drawn]

/-- In both lists each attempt has the same actions in the same order. -/
def SameForEach (xs ys : List GateAction) : Prop :=
  ∀ attempt, xs.filter (fun x => x.attempt = attempt) = ys.filter fun y => y.attempt = attempt

/-- One list comes from the other by exchanging neighbours on different attempts. -/
inductive Reordered : List GateAction → List GateAction → Prop
  | refl (xs) : Reordered xs xs
  | cons (x) {xs ys} : Reordered xs ys → Reordered (x :: xs) (x :: ys)
  | swap (x y zs) : x.attempt ≠ y.attempt → Reordered (x :: y :: zs) (y :: x :: zs)
  | trans {xs ys zs} : Reordered xs ys → Reordered ys zs → Reordered xs zs

variable {draws : Draws} {g : Gate} {x y : GateAction} {xs ys : List GateAction}

theorem effect_act_of_ne (hfixed : ∀ m n, draws m = draws n) (h : x.attempt ≠ y.attempt)
    (g : Gate) : (g.act draws x).value.2.effect draws y = g.effect draws y := by
  have hentry : (g.act draws x).value.2.pending.get? y.attempt = g.pending.get? y.attempt := by
    rw [(act_eq_apply draws g x).2, apply, Pending.get?_set, if_neg h]
  rw [effect, effect, hentry, hfixed _ g.drawn]

/-- Neighbouring actions on different attempts may change places. -/
theorem act_act_comm (hfixed : ∀ m n, draws m = draws n) (h : x.attempt ≠ y.attempt) (g : Gate) :
    ((g.act draws x).value.2.act draws y).value.2 =
      ((g.act draws y).value.2.act draws x).value.2 := by
  calc
    ((g.act draws x).value.2.act draws y).value.2
        = (g.act draws x).value.2.apply y.attempt (g.effect draws y) := by
      rw [(act_eq_apply draws _ y).2, effect_act_of_ne hfixed h]
    _ = (g.apply x.attempt (g.effect draws x)).apply y.attempt (g.effect draws y) := by
      rw [(act_eq_apply draws g x).2]
    _ = (g.apply y.attempt (g.effect draws y)).apply x.attempt (g.effect draws x) :=
      apply_comm h g _ _
    _ = (g.act draws y).value.2.apply x.attempt (g.effect draws x) := by
      rw [(act_eq_apply draws g y).2]
    _ = ((g.act draws y).value.2.act draws x).value.2 := by
      rw [(act_eq_apply draws _ x).2, effect_act_of_ne hfixed (Ne.symm h)]

theorem said_act_of_ne (hfixed : ∀ m n, draws m = draws n) (h : x.attempt ≠ y.attempt) (g : Gate) :
    ((g.act draws x).value.2.act draws y).value.1.said = (g.act draws y).value.1.said := by
  rw [(act_eq_apply draws _ y).1, effect_act_of_ne hfixed h, (act_eq_apply draws g y).1]

def saidOn (draws : Draws) (g : Gate) (actions : List GateAction) (attempt : Uuid) :
    List (Decision ⊕ Bool) :=
  ((actions.zip (g.run draws actions)).filter fun step => step.1.attempt = attempt).map
    fun step => step.2.value.1.said

theorem saidOn_cons (draws : Draws) (g : Gate) (x : GateAction) (xs : List GateAction)
    (attempt : Uuid) :
    g.saidOn draws (x :: xs) attempt =
      (if x.attempt = attempt then [(g.act draws x).value.1.said] else []) ++
        (g.act draws x).value.2.saidOn draws xs attempt := by
  by_cases h : x.attempt = attempt <;> simp [saidOn, run, h]

/-- An action may be done before all those that are about other attempts. -/
theorem reordered_to_front (x : GateAction) (front rest : List GateAction)
    (h : ∀ y ∈ front, y.attempt ≠ x.attempt) :
    Reordered (x :: (front ++ rest)) (front ++ x :: rest) := by
  induction front with
  | nil => exact .refl (x :: rest)
  | cons y front ih =>
      have hfront : Reordered (x :: (front ++ rest)) (front ++ x :: rest) := by
        apply ih
        intro z hz
        exact h z (List.mem_cons_of_mem y hz)
      have hy : x.attempt ≠ y.attempt := Ne.symm (h y List.mem_cons_self)
      exact .trans (.swap x y (front ++ rest) hy) (.cons y hfront)

theorem reordered_of_sameForEach (h : SameForEach xs ys) : Reordered xs ys := by
  induction xs generalizing ys with
  | nil =>
      have hnil : ys = [] := by
        rw [List.eq_nil_iff_forall_not_mem]
        intro y hy
        have hmem : y ∈ ys.filter fun z => z.attempt = y.attempt := by simp [hy]
        rw [← h y.attempt] at hmem
        cases hmem
      rw [hnil]
      exact .refl []
  | cons x xs ih =>
      have hx := h x.attempt
      rw [List.filter_cons_of_pos (by simp), eq_comm, List.filter_eq_cons_iff] at hx
      obtain ⟨front, rest, rfl, hfront, -, -⟩ := hx
      have hne : ∀ y ∈ front, y.attempt ≠ x.attempt := by simpa using hfront
      have hrest : SameForEach xs (front ++ rest) := by
        intro attempt
        have ha := h attempt
        by_cases hxa : x.attempt = attempt
        · have hnone : front.filter (fun y => y.attempt = attempt) = [] := by
            rw [List.filter_eq_nil_iff]
            intro y hy
            simpa [← hxa] using hne y hy
          rw [List.filter_append, hnone, List.nil_append] at ha ⊢
          simpa [hxa] using ha
        · simpa [hxa] using ha
      exact .trans (.cons x (ih hrest)) (reordered_to_front x front rest hne)

theorem after_cons (draws : Draws) (g : Gate) (x : GateAction) (xs : List GateAction) :
    g.after draws (x :: xs) = (g.act draws x).value.2.after draws xs := rfl

theorem Reordered.after_eq (hfixed : ∀ m n, draws m = draws n) (h : Reordered xs ys) (g : Gate) :
    g.after draws xs = g.after draws ys := by
  induction h generalizing g with
  | refl xs => rfl
  | cons x _ ih => exact ih (g.act draws x).value.2
  | swap x y zs hxy => rw [after_cons, after_cons, after_cons, after_cons, act_act_comm hfixed hxy]
  | trans _ _ ih ih' => exact (ih g).trans (ih' g)

theorem Reordered.saidOn_eq (hfixed : ∀ m n, draws m = draws n) (h : Reordered xs ys) (g : Gate)
    (attempt : Uuid) : g.saidOn draws xs attempt = g.saidOn draws ys attempt := by
  induction h generalizing g with
  | refl xs => rfl
  | cons x _ ih => rw [saidOn_cons, saidOn_cons, ih]
  | swap x y zs hxy =>
      rw [saidOn_cons, saidOn_cons, saidOn_cons, saidOn_cons, act_act_comm hfixed hxy,
        said_act_of_ne hfixed hxy, said_act_of_ne hfixed (Ne.symm hxy)]
      by_cases hx : x.attempt = attempt
      · have hy : y.attempt ≠ attempt := fun hy => hxy (hx.trans hy.symm)
        rw [if_neg hy, List.nil_append, List.nil_append]
      · rw [if_neg hx, List.nil_append, List.nil_append]
  | trans _ _ ih ih' => exact (ih g).trans (ih' g)

/-- If the draw is fixed, two orders of actions that agree on the actions of each attempt lead to
the same gate, and the actions on each attempt get the same decisions, or are scored alike. -/
theorem unrelated_attempts_commute (hfixed : ∀ m n, draws m = draws n) (g : Gate)
    (h : SameForEach xs ys) :
    g.after draws xs = g.after draws ys ∧
      ∀ attempt, g.saidOn draws xs attempt = g.saidOn draws ys attempt := by
  have hreordered := reordered_of_sameForEach h
  exact ⟨hreordered.after_eq hfixed g, fun attempt => hreordered.saidOn_eq hfixed g attempt⟩

/-- A decline that two attempts share, and with it their bucket. -/
def restricted : Decline := ⟨"Adyen", 62, "Restricted card", .generalDecline, true⟩

/-- One attempt fails before the other one is decided on at all, or after it has succeeded. The gate
ends up the same, and both are scored; only the tally in the answer tells which came first. -/
theorem shared_bucket_reordered :
    let xs : List GateAction :=
      [.decide ⟨1⟩ (some restricted) 0, .decide ⟨2⟩ (some restricted) 0, .score ⟨1⟩ .success,
        .score ⟨2⟩ .failure]
    let ys : List GateAction :=
      [.decide ⟨2⟩ (some restricted) 0, .score ⟨2⟩ .failure, .decide ⟨1⟩ (some restricted) 0,
        .score ⟨1⟩ .success]
    (∀ m n, Draws.fixed 50 m = Draws.fixed 50 n) ∧ SameForEach xs ys ∧
      fresh.after (.fixed 50) xs = fresh.after (.fixed 50) ys ∧
      fresh.saidOn (.fixed 50) xs ⟨2⟩ = fresh.saidOn (.fixed 50) ys ⟨2⟩ ∧
      fresh.saidOn (.fixed 50) ys ⟨2⟩ = [.inl .allow, .inr true] ∧
      reply? (.fixed 50) xs 3 = some (.tally (some ⟨1, 1⟩)) ∧
      reply? (.fixed 50) ys 1 = some (.tally (some ⟨0, 1⟩)) := by
  intro xs ys
  have hfixed : ∀ m n, Draws.fixed 50 m = Draws.fixed 50 n := fun _ _ => rfl
  have hsame : SameForEach xs ys := by
    intro attempt
    by_cases h₁ : (⟨1⟩ : Uuid) = attempt
    · subst h₁
      rfl
    by_cases h₂ : (⟨2⟩ : Uuid) = attempt
    · subst h₂
      rfl
    simp only [xs, ys, List.filter_cons, GateAction.attempt, h₁, h₂, decide_false,
      Bool.false_eq_true, if_false]
  obtain ⟨hafter, hsaid⟩ := unrelated_attempts_commute hfixed fresh hsame
  exact ⟨hfixed, hsame, hafter, hsaid ⟨2⟩, by decide, by decide, by decide⟩

end Gate

end RetryTrial
