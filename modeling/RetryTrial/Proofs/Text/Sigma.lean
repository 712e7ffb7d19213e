import Mathlib.Data.List.Basic
import RetryTrial.Text.Casing

/-!
# Capital sigma in its surroundings

The small form of a letter does not depend on its neighbours, but for capital sigma, which takes the
final form where it ends a word. A piece of a text therefore has the same small form there as by
itself exactly if each of its capital sigmas ends a word in both or in neither. A piece without
capital sigmas has, and so does one with no cased letter next to it.
-/

namespace RetryTrial.Text

/-- A capital sigma between these letters, the nearest ones first, ends a word. -/
def EndsWord (before after : List Char) : Prop :=
  meetsCased before = true ∧ meetsCased after = false

instance (before after : List Char) : Decidable (EndsWord before after) :=
  inferInstanceAs (Decidable (_ ∧ _))

/-- The small form of a piece of a text between the letters `before` it, nearest first, and those
`after` it. -/
def lowerWithin (before : List Char) : List Char → List Char → List Char
  | [], _ => []
  | c :: cs, after => lowerBetween before c (cs ++ after) ++ lowerWithin (c :: before) cs after

/-- Each capital sigma of the piece ends a word here exactly if it does in the piece by itself. -/
def KeepsSigmas (before piece after : List Char) : Prop :=
  ∀ front back, piece = front ++ capitalSigma :: back →
    (EndsWord (front.reverse ++ before) (back ++ after) ↔ EndsWord front.reverse back)

variable {before after cs ds : List Char}

theorem meetsCased_of_ignorable (h : ∀ c ∈ cs, isCaseIgnorable c = true) (ds : List Char) :
    meetsCased (cs ++ ds) = meetsCased ds := by
  induction cs with
  | nil => rfl
  | cons c cs ih =>
      rw [List.forall_mem_cons] at h
      rw [List.cons_append, meetsCased, if_pos h.1, ih h.2]

theorem meetsCased_of_not_ignorable (h : ¬ ∀ c ∈ cs, isCaseIgnorable c = true) (ds : List Char) :
    meetsCased (cs ++ ds) = meetsCased cs := by
  induction cs with
  | nil => exact absurd (List.forall_mem_nil _) h
  | cons c cs ih =>
      rw [List.cons_append, meetsCased, meetsCased]
      by_cases hc : isCaseIgnorable c = true
      · rw [if_pos hc, if_pos hc, ih fun hcs => h (List.forall_mem_cons.mpr ⟨hc, hcs⟩)]
      · rw [if_neg hc, if_neg hc]

/-- What lies beyond a text cannot bring a cased letter near if it has none near. -/
theorem meetsCased_append_of_not (h : meetsCased ds = false) (cs : List Char) :
    meetsCased (cs ++ ds) = meetsCased cs := by
  by_cases hcs : ∀ c ∈ cs, isCaseIgnorable c = true
  · have hnil := meetsCased_of_ignorable hcs []
    rw [List.append_nil] at hnil
    rw [meetsCased_of_ignorable hcs, h, hnil, meetsCased]
  · exact meetsCased_of_not_ignorable hcs ds

theorem lowerBetween_capitalSigma (before after : List Char) :
    lowerBetween before capitalSigma after =
      [if EndsWord before after then finalSigma else smallSigma] := by
  rw [lowerBetween, if_pos rfl]
  by_cases h : EndsWord before after
  · rw [if_pos h, if_pos (by simp [h.1, h.2])]
  · have hnot : ¬ (meetsCased before && !meetsCased after) = true := by
      simpa [EndsWord] using h
    rw [if_neg h, if_neg hnot]

theorem lowerBetween_of_ne {c : Char} (h : c ≠ capitalSigma) (before after : List Char) :
    lowerBetween before c after = lowerLetter c := by
  rw [lowerBetween, if_neg h]

theorem lowerAfter_append_eq (before cs ds : List Char) :
    lowerAfter before (cs ++ ds) =
      lowerWithin before cs ds ++ lowerAfter (cs.reverse ++ before) ds := by
  induction cs generalizing before with
  | nil => rfl
  | cons c cs ih =>
      rw [List.cons_append, lowerAfter, ih, lowerWithin, List.reverse_cons, List.append_assoc,
        List.append_assoc, List.singleton_append]

theorem finalSigma_iff {p q : Prop} [Decidable p] [Decidable q] :
    (if p then finalSigma else smallSigma) = (if q then finalSigma else smallSigma) ↔ (p ↔ q) := by
  by_cases hp : p <;> by_cases hq : q <;> simp [hp, hq, finalSigma, smallSigma]

-- The induction is on the piece, whose letters so far have been `seen`: by itself it has those
-- before it, in the text there is more before them.
theorem lowerWithin_eq_lowerAfter_iff (seen before piece after : List Char) :
    lowerWithin (seen ++ before) piece after = lowerAfter seen piece ↔
      ∀ front back, piece = front ++ capitalSigma :: back →
        (EndsWord (front.reverse ++ (seen ++ before)) (back ++ after) ↔
          EndsWord (front.reverse ++ seen) back) := by
  induction piece generalizing seen with
  | nil => simp [lowerWithin]
  | cons c piece ih =>
      have hlater := ih (c :: seen)
      rw [List.cons_append] at hlater
      rw [lowerWithin, lowerAfter]
      constructor
      · intro h front back hsplit
        cases front with
        | nil =>
            obtain ⟨rfl, rfl⟩ := List.cons.inj hsplit
            rw [lowerBetween_capitalSigma, lowerBetween_capitalSigma] at h
            exact finalSigma_iff.mp (List.cons.inj h).1
        | cons d front =>
            obtain ⟨rfl, hrest⟩ := List.cons.inj hsplit
            have hlength : (lowerBetween (seen ++ before) c (piece ++ after)).length =
                (lowerBetween seen c piece).length := by
              by_cases hc : c = capitalSigma
              · rw [hc, lowerBetween_capitalSigma, lowerBetween_capitalSigma]
                rfl
              · rw [lowerBetween_of_ne hc, lowerBetween_of_ne hc]
            have hforms := hlater.mp (List.append_inj_right h hlength) front back hrest
            simpa using hforms
      · intro h
        have hrest : lowerWithin (c :: (seen ++ before)) piece after =
            lowerAfter (c :: seen) piece := by
          refine hlater.mpr fun front back hsplit => ?_
          simpa using h (c :: front) back (congrArg (c :: ·) hsplit)
        rw [hrest]
        congr 1
        by_cases hc : c = capitalSigma
        · subst hc
          rw [lowerBetween_capitalSigma, lowerBetween_capitalSigma]
          exact congrArg (fun d => [d]) (finalSigma_iff.mpr (h [] piece rfl))
        · rw [lowerBetween_of_ne hc, lowerBetween_of_ne hc]

/-- In a text a piece has the small form that it has by itself exactly if it keeps its sigmas. -/
theorem lowerWithin_eq_lower_iff (before piece after : List Char) :
    lowerWithin before piece after = lower piece ↔ KeepsSigmas before piece after := by
  have h := lowerWithin_eq_lowerAfter_iff [] before piece after
  simpa [lower, KeepsSigmas] using h

theorem KeepsSigmas.lower_infix {piece : List Char} (h : KeepsSigmas before.reverse piece after) :
    lower piece <:+: lower (before ++ piece ++ after) := by
  let rest := lowerAfter (piece.reverse ++ before.reverse) after
  refine ⟨lowerWithin [] before (piece ++ after), rest, ?_⟩
  have hforms := (lowerWithin_eq_lower_iff before.reverse piece after).mpr h
  rw [lower, lower, List.append_assoc before, lowerAfter_append_eq, lowerAfter_append_eq,
    List.append_nil, hforms, lower, List.append_assoc]

theorem keepsSigmas_of_not_mem {piece : List Char} (h : capitalSigma ∉ piece)
    (before after : List Char) : KeepsSigmas before piece after := by
  rintro front back rfl
  exact absurd (by simp) h

theorem keepsSigmas_of_apart (hbefore : meetsCased before = false)
    (hafter : meetsCased after = false) (piece : List Char) : KeepsSigmas before piece after := by
  intro front back _
  rw [EndsWord, EndsWord, meetsCased_append_of_not hbefore, meetsCased_append_of_not hafter]

end RetryTrial.Text
