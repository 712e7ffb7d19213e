import RetryTrial.Gate.Outcomes
import RetryTrial.Proofs.Text.ByteOrder

/-!
# What a snapshot of the scored outcomes lists

`Keeps` relates the scored outcomes to a flat map from buckets to their counts: they have a tally
for just the buckets with a count, and no processor without such a bucket. Recording an outcome
raises one count of its bucket on both sides. A snapshot lists the buckets with a count, in order.
-/

namespace RetryTrial

theorem Tally.add_ne_zero (t : Tally) (outcome : Outcome) : t.add outcome ≠ .zero := by
  intro h
  have htotal := congrArg total h
  rw [total_add, total_zero] at htotal
  exact Nat.succ_ne_zero _ htotal

namespace Outcomes

/-- The processors stand in the order of their bytes. Each has a code, and its codes stand in their
order as numbers. -/
structure Orderly (listing : List (String × List (Int32 × Tally))) : Prop where
  processors : listing.Pairwise fun x y => Text.encode x.1 < Text.encode y.1
  codes : ∀ x ∈ listing, x.2 ≠ [] ∧ x.2.Pairwise fun c d => c.1.toInt < d.1.toInt

def Shows (listing : List (String × List (Int32 × Tally))) (b : Bucket) (t : Tally) : Prop :=
  ∃ codes, (b.processor, codes) ∈ listing ∧ (b.code, t) ∈ codes

def raise (counts : Bucket → Tally) (b : Bucket) (outcome : Outcome) (c : Bucket) : Tally :=
  if b = c then (counts b).add outcome else counts c

structure Keeps (o : Outcomes) (counts : Bucket → Tally) : Prop where
  get?_eq : ∀ b, o.get? b = if counts b = .zero then none else some (counts b)
  occupied : ∀ p ∈ o.processors, ∃ c, counts ⟨p, c⟩ ≠ .zero

variable {o : Outcomes} {counts : Bucket → Tally}

theorem keeps_empty : empty.Keeps fun _ => .zero where
  get?_eq b := by rw [get?_empty, if_pos rfl]
  occupied p hp := absurd hp Std.ExtTreeMap.not_mem_empty

namespace Keeps

theorem tally (h : o.Keeps counts) (b : Bucket) : o.tally b = counts b := by
  rw [Outcomes.tally, h.get?_eq]
  split
  · rename_i hzero
    rw [hzero]
    rfl
  · rfl

theorem record (h : o.Keeps counts) (b : Bucket) (outcome : Outcome) :
    (o.record b outcome).Keeps (raise counts b outcome) where
  get?_eq c := by
    rw [get?_record, h.tally, raise]
    split
    · rw [if_neg (Tally.add_ne_zero _ _)]
    · exact h.get?_eq c
  occupied p hp := by
    rw [mem_processors_record] at hp
    rcases hp with rfl | hp
    · refine ⟨b.code, ?_⟩
      rw [raise, if_pos rfl]
      exact Tally.add_ne_zero _ _
    · obtain ⟨c, hc⟩ := h.occupied p hp
      refine ⟨c, ?_⟩
      rw [raise]
      split
      · exact Tally.add_ne_zero _ _
      · exact hc

theorem shows_snapshot_iff (h : o.Keeps counts) {b : Bucket} {t : Tally} :
    Shows o.snapshot b t ↔ counts b ≠ .zero ∧ t = counts b := by
  rw [Shows, exists_mem_snapshot_iff, h.get?_eq]
  by_cases hb : counts b = .zero
  · simp [hb]
  · simp [hb, eq_comm]

theorem orderly_snapshot (h : o.Keeps counts) : Orderly o.snapshot where
  processors := by
    rw [snapshot, List.pairwise_map]
    apply List.Pairwise.imp _ (Std.ExtTreeMap.ordered_keys_toList (t := o.processors))
    intro x y hxy
    exact Text.encode_lt_encode (compareOfLessAndEq_eq_lt.mp hxy)
  codes := by
    rintro ⟨p, listed⟩ hx
    obtain ⟨codes, hcodes, rfl⟩ := mem_snapshot.mp hx
    refine ⟨?_, ?_⟩
    · have hp : p ∈ o.processors := by
        rw [Std.ExtTreeMap.mem_iff_isSome_getElem?, hcodes, Option.isSome_some]
      obtain ⟨c, hc⟩ := h.occupied p hp
      obtain ⟨listed, hlisted, hmem⟩ := h.shows_snapshot_iff.mpr ⟨hc, rfl⟩
      obtain ⟨others, hothers, rfl⟩ := mem_snapshot.mp hlisted
      obtain rfl := Option.some.inj (hcodes.symm.trans hothers)
      exact List.ne_nil_of_mem hmem
    · apply List.Pairwise.imp _ (Std.ExtTreeMap.ordered_keys_toList (t := codes))
      intro c d hcd
      exact Int32.lt_iff_toInt_lt.mp (Std.compare_eq_lt.mp hcd)

end Keeps

end Outcomes

end RetryTrial
