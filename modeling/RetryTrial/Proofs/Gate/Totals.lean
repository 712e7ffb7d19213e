import Mathlib.Algebra.GroupWithZero.Nat
import RetryTrial.Gate.Outcomes

/-!
# The total of all buckets

`total` adds up the tallies of all buckets. The bucket that an outcome is recorded in is listed once
and all other buckets stay as they are, so recording an outcome raises the total by one.
-/

namespace RetryTrial.Outcomes

def total (o : Outcomes) : Nat := (o.toList.map fun (_, t) => t.total).sum

/-- What is listed besides a bucket. -/
def besides (o : Outcomes) (b : Bucket) : List (Bucket × Tally) := o.toList.filter (·.1 ≠ b)

theorem nodup_toList (o : Outcomes) : o.toList.Nodup := by
  rw [toList, snapshot, List.flatMap_map]
  refine List.pairwise_flatMap.mpr ⟨?_, ?_⟩
  · rintro ⟨p, codes⟩ -
    refine List.Pairwise.map _ ?_ (Std.ExtTreeMap.distinct_keys_toList (t := codes))
    rintro x y hxy heq
    obtain ⟨hbucket, -⟩ := Prod.mk.inj heq
    exact hxy (by rw [(Bucket.mk.inj hbucket).2]; exact Std.ReflCmp.compare_self)
  · apply List.Pairwise.imp _ (Std.ExtTreeMap.distinct_keys_toList (t := o.processors))
    intro x y hxy u hu v hv heq
    obtain ⟨⟨c, t⟩, -, rfl⟩ := List.mem_map.mp hu
    obtain ⟨⟨d, w⟩, -, rfl⟩ := List.mem_map.mp hv
    obtain ⟨hbucket, -⟩ := Prod.mk.inj heq
    exact hxy (by rw [(Bucket.mk.inj hbucket).1]; exact Std.ReflCmp.compare_self)

theorem mem_besides {o : Outcomes} {b c : Bucket} {t : Tally} :
    (c, t) ∈ o.besides b ↔ o.get? c = some t ∧ c ≠ b := by
  simp only [besides, List.mem_filter, mem_toList, decide_eq_true_eq]

theorem nodup_besides (o : Outcomes) (b : Bucket) : (o.besides b).Nodup :=
  (nodup_toList o).filter _

theorem toList_perm {o : Outcomes} {b : Bucket} {t : Tally} (h : o.get? b = some t) :
    o.toList.Perm ((b, t) :: o.besides b) := by
  have hb : (b, t) ∉ o.besides b := fun hm => (mem_besides.mp hm).2 rfl
  have hn : ((b, t) :: o.besides b).Nodup := List.nodup_cons.mpr ⟨hb, o.nodup_besides b⟩
  refine (List.perm_ext_iff_of_nodup o.nodup_toList hn).mpr ?_
  rintro ⟨c, u⟩
  rw [List.mem_cons, mem_besides, mem_toList]
  by_cases hc : c = b
  · subst hc
    simp [h, eq_comm]
  · simp [hc]

theorem total_of_get? {o : Outcomes} {b : Bucket} {t : Tally} (h : o.get? b = some t) :
    o.total = t.total + ((o.besides b).map fun (_, t) => t.total).sum := by
  rw [total, ((toList_perm h).map _).sum_nat]
  rfl

theorem total_of_get?_eq_none {o : Outcomes} {b : Bucket} (h : o.get? b = none) :
    o.total = ((o.besides b).map fun (_, t) => t.total).sum := by
  have hb : o.besides b = o.toList := by
    apply List.filter_eq_self.mpr
    rintro ⟨c, t⟩ hc
    rw [mem_toList] at hc
    have hne : c ≠ b := by rintro rfl; simp [h] at hc
    simpa using hne
  rw [hb, total]

theorem besides_record (o : Outcomes) (b : Bucket) (outcome : Outcome) :
    ((o.record b outcome).besides b).Perm (o.besides b) := by
  refine (List.perm_ext_iff_of_nodup (nodup_besides _ b) (nodup_besides o b)).mpr ?_
  rintro ⟨c, t⟩
  rw [mem_besides, mem_besides]
  apply and_congr_left
  intro hc
  rw [get?_record, if_neg (Ne.symm hc)]

theorem total_record (o : Outcomes) (b : Bucket) (outcome : Outcome) :
    (o.record b outcome).total = o.total + 1 := by
  have hr : (o.record b outcome).get? b = some ((o.tally b).add outcome) := by
    rw [get?_record, if_pos rfl]
  rw [total_of_get? hr, ((besides_record o b outcome).map _).sum_nat, Tally.total_add]
  cases h : o.get? b with
  | none =>
      have ht : o.tally b = .zero := by rw [tally, h]; rfl
      rw [total_of_get?_eq_none h, ht, Tally.total_zero]
      omega
  | some t =>
      have ht : o.tally b = t := by rw [tally, h]; rfl
      rw [total_of_get? h, ht]
      omega

end RetryTrial.Outcomes
