import Std.Data.ExtTreeMap

/-!
# The last member of a list with a property

Looking through a list from its end finds the last member with a property. Rows that are put into a
map one after the other leave under each key what the last row of that key says. Of the steps before
some step at most one is the last with a property.
-/

namespace RetryTrial

/-- The last member of a list that has a property. -/
def IsLast {α : Type} (P : α → Prop) (l : List α) (a : α) : Prop :=
  ∃ before after, l = before ++ a :: after ∧ P a ∧ ∀ b ∈ after, ¬ P b

theorem find?_reverse_eq_some_iff {α : Type} {P : α → Prop} [DecidablePred P] {l : List α} {a : α} :
    l.reverse.find? (fun a => decide (P a)) = some a ↔ IsLast P l a := by
  rw [List.find?_eq_some_iff_append, decide_eq_true_eq]
  constructor
  · rintro ⟨ha, front, back, hl, hfront⟩
    have hl' : l = back.reverse ++ a :: front.reverse := by
      rw [← List.reverse_reverse l, hl]
      simp
    refine ⟨back.reverse, front.reverse, hl', ha, ?_⟩
    intro b hb
    simpa using hfront b (List.mem_reverse.mp hb)
  · rintro ⟨before, after, rfl, ha, hafter⟩
    refine ⟨ha, after.reverse, before.reverse, by simp, ?_⟩
    intro b hb
    simpa using hafter b (List.mem_reverse.mp hb)

variable {α β : Type} {P : α → Prop} {l : List α} {a b : α}

theorem IsLast.mem (h : IsLast P l a) : a ∈ l := by
  obtain ⟨before, after, rfl, -, -⟩ := h
  simp

theorem IsLast.holds (h : IsLast P l a) : P a := by
  obtain ⟨-, -, -, ha, -⟩ := h
  exact ha

theorem exists_isLast_iff : (∃ a, IsLast P l a) ↔ ∃ a ∈ l, P a := by
  classical
  constructor
  · rintro ⟨a, h⟩
    exact ⟨a, h.mem, h.holds⟩
  · rintro ⟨a, ha, hp⟩
    cases h : l.reverse.find? (fun a => decide (P a)) with
    | none =>
        have hn := List.find?_eq_none.mp h a (List.mem_reverse.mpr ha)
        exact absurd hp (by simpa using hn)
    | some b => exact ⟨b, find?_reverse_eq_some_iff.mp h⟩

theorem findSome?_reverse_eq_some_iff {f : α → Option β} {v : β} :
    l.reverse.findSome? f = some v ↔
      ∃ a, IsLast (fun a => ∃ v, f a = some v) l a ∧ f a = some v := by
  rw [List.findSome?_eq_some_iff]
  constructor
  · rintro ⟨front, a, back, hl, hv, hfront⟩
    have hl' : l = back.reverse ++ a :: front.reverse := by
      rw [← List.reverse_reverse l, hl]
      simp
    refine ⟨a, ⟨back.reverse, front.reverse, hl', ⟨v, hv⟩, ?_⟩, hv⟩
    rintro b hb ⟨u, hu⟩
    rw [hfront b (List.mem_reverse.mp hb)] at hu
    cases hu
  · rintro ⟨a, ⟨before, after, rfl, -, hafter⟩, hv⟩
    refine ⟨after.reverse, a, before.reverse, by simp, hv, ?_⟩
    intro b hb
    rw [Option.eq_none_iff_forall_ne_some]
    intro u hu
    exact hafter b (List.mem_reverse.mp hb) ⟨u, hu⟩

theorem getElem?_foldl_insert {κ : Type} [Ord κ] [Std.TransOrd κ] [Std.LawfulEqOrd κ]
    [DecidableEq κ] (key : α → κ) (value : α → β) (l : List α) (m : Std.ExtTreeMap κ β) (k : κ) :
    (l.foldl (fun m a => m.insert (key a) (value a)) m)[k]? =
      ((l.reverse.find? fun a => decide (key a = k)).map value).or m[k]? := by
  induction l generalizing m with
  | nil => simp
  | cons a l ih =>
      rw [List.foldl_cons, ih, Std.ExtTreeMap.getElem?_insert, List.reverse_cons, List.find?_append]
      by_cases hk : key a = k
      · subst hk
        cases l.reverse.find? fun b => decide (key b = key a) <;> simp
      · simp [hk]

section Steps

variable {S : Nat → Prop} {n i j : Nat}

theorem eq_of_last_step (hi : i < n) (hSi : S i) (hlasti : ∀ k, i < k → k < n → ¬ S k)
    (hj : j < n) (hSj : S j) (hlastj : ∀ k, j < k → k < n → ¬ S k) : i = j := by
  rcases Nat.lt_trichotomy i j with hlt | heq | hgt
  · exact absurd hSj (hlasti j hlt hj)
  · exact heq
  · exact absurd hSi (hlastj i hgt hi)

theorem forall_step_succ {R : Nat → Prop} (h : ∀ k, R k → k < n → S k) (hn : S n) :
    ∀ k, R k → k < n + 1 → S k := by
  intro k hR hkn
  by_cases hk : k = n
  · exact hk ▸ hn
  · exact h k hR (by omega)

end Steps

end RetryTrial
