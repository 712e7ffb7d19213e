import Std.Data.ExtTreeMap
import RetryTrial.Outcome

/-!
# Scored outcomes

Outcomes are counted per processor and code. The codes of a processor and the tally of a code are
made when the first outcome is recorded there. Looking a tally up makes neither: a bucket that was
never recorded has the tally zero and is not listed. Recording an outcome changes the tally of its
own bucket only. `snapshot` lists the processors in their order, each with its codes in theirs.
-/

namespace RetryTrial

structure Bucket where
  processor : String
  code : Int32
deriving DecidableEq

/-- The tallies of a processor by code. -/
abbrev CodeTallies := Std.ExtTreeMap Int32 Tally

structure Outcomes where
  processors : Std.ExtTreeMap String CodeTallies
deriving DecidableEq

namespace Outcomes

def empty : Outcomes := ⟨∅⟩

def get? (o : Outcomes) (b : Bucket) : Option Tally := do
  let codes ← o.processors[b.processor]?
  codes[b.code]?

def tally (o : Outcomes) (b : Bucket) : Tally := (o.get? b).getD .zero

/-- Puts a tally among the codes of a processor that is there. -/
def put (o : Outcomes) (b : Bucket) (t : Tally) : Outcomes :=
  ⟨o.processors.modify b.processor (·.insert b.code t)⟩

/-- The codes of a processor, which is made if it is missing. -/
def ensureProcessor (o : Outcomes) (processor : String) : CodeTallies × Outcomes :=
  match o.processors[processor]? with
  | some codes => (codes, o)
  | none => (∅, ⟨o.processors.insert processor ∅⟩)

/-- The tally of a bucket, which is made if it is missing. -/
def ensureTally (o : Outcomes) (b : Bucket) : Tally × Outcomes :=
  let (codes, o) := o.ensureProcessor b.processor
  match codes[b.code]? with
  | some t => (t, o)
  | none => (.zero, o.put b .zero)

/-- Counts an outcome. The answer is how many of its kind the bucket has now. -/
def increment (o : Outcomes) (b : Bucket) (outcome : Outcome) : Nat × Outcomes :=
  let (t, o) := o.ensureTally b
  (t.count outcome + 1, o.put b (t.add outcome))

def record (o : Outcomes) (b : Bucket) (outcome : Outcome) : Outcomes := (o.increment b outcome).2

def snapshot (o : Outcomes) : List (String × List (Int32 × Tally)) :=
  o.processors.toList.map fun (processor, codes) => (processor, codes.toList)

def toList (o : Outcomes) : List (Bucket × Tally) :=
  o.snapshot.flatMap fun (processor, codes) => codes.map fun (code, t) => (⟨processor, code⟩, t)

def codesOf (o : Outcomes) (processor : String) : CodeTallies := o.processors.getD processor ∅

@[simp] theorem get?_empty (b : Bucket) : empty.get? b = none := rfl

theorem getElem?_codesOf (o : Outcomes) (b : Bucket) :
    (o.codesOf b.processor)[b.code]? = o.get? b := by
  rw [codesOf, Std.ExtTreeMap.getD_eq_getD_getElem?, get?]
  cases o.processors[b.processor]? with
  | none => exact Std.ExtTreeMap.getElem?_empty
  | some codes => rfl

theorem ext_get? {o u : Outcomes} (hp : ∀ p, p ∈ o.processors ↔ p ∈ u.processors)
    (hb : ∀ b, o.get? b = u.get? b) : o = u := by
  obtain ⟨os⟩ := o
  obtain ⟨us⟩ := u
  refine congrArg mk (Std.ExtTreeMap.ext_getElem? fun p => ?_)
  have hsome : os[p]?.isSome ↔ us[p]?.isSome := by
    rw [← Std.ExtTreeMap.mem_iff_isSome_getElem?, ← Std.ExtTreeMap.mem_iff_isSome_getElem?]
    exact hp p
  cases ho : os[p]? with
  | none => simpa [ho] using hsome
  | some codes =>
      rw [ho] at hsome
      obtain ⟨others, hu⟩ := Option.isSome_iff_exists.mp (hsome.mp rfl)
      have hcodes : codes = others := Std.ExtTreeMap.ext_getElem? fun c => by
        simpa [get?, ho, hu] using hb ⟨p, c⟩
      rw [hu, hcodes]

section Map

variable {κ β : Type} [Ord κ] [Std.TransOrd κ] [Std.LawfulEqOrd κ] {m : Std.ExtTreeMap κ β} {k : κ}

theorem insert_of_getElem? {v : β} (h : m[k]? = some v) : m.insert k v = m := by
  apply Std.ExtTreeMap.ext_getElem?
  intro l
  rw [Std.ExtTreeMap.getElem?_insert]
  split
  · rename_i hl
    rw [← Std.LawfulEqOrd.eq_of_compare hl, h]
  · rfl

theorem modify_insert (v : β) (f : β → β) : (m.insert k v).modify k f = m.insert k (f v) := by
  apply Std.ExtTreeMap.ext_getElem?
  intro l
  rw [Std.ExtTreeMap.getElem?_modify, Std.ExtTreeMap.getElem?_insert_self]
  simp only [Std.ExtTreeMap.getElem?_insert]
  split <;> rfl

theorem insert_insert (v w : β) : (m.insert k v).insert k w = m.insert k w := by
  apply Std.ExtTreeMap.ext_getElem?
  intro l
  simp only [Std.ExtTreeMap.getElem?_insert]
  split <;> rfl

end Map

theorem ensureProcessor_eq (o : Outcomes) (processor : String) :
    o.ensureProcessor processor =
      (o.codesOf processor, ⟨o.processors.insert processor (o.codesOf processor)⟩) := by
  rw [codesOf, Std.ExtTreeMap.getD_eq_getD_getElem?, ensureProcessor]
  cases h : o.processors[processor]? with
  | none => rfl
  | some codes =>
      dsimp only [Option.getD_some]
      rw [insert_of_getElem? h]

theorem ensureTally_eq (o : Outcomes) (b : Bucket) :
    o.ensureTally b = (o.tally b,
      ⟨o.processors.insert b.processor ((o.codesOf b.processor).insert b.code (o.tally b))⟩) := by
  rw [ensureTally, ensureProcessor_eq]
  dsimp only
  rw [getElem?_codesOf, tally]
  cases h : o.get? b with
  | none =>
      dsimp only [put, Option.getD_none]
      rw [modify_insert]
  | some t =>
      rw [← getElem?_codesOf] at h
      dsimp only [Option.getD_some]
      rw [insert_of_getElem? h]

/-- Whatever has to be made for it, a recorded outcome counts on from the tally of its bucket. -/
theorem increment_eq (o : Outcomes) (b : Bucket) (outcome : Outcome) :
    o.increment b outcome = ((o.tally b).count outcome + 1,
      ⟨o.processors.insert b.processor
        ((o.codesOf b.processor).insert b.code ((o.tally b).add outcome))⟩) := by
  rw [increment, ensureTally_eq]
  dsimp only [put]
  rw [modify_insert, insert_insert]

theorem increment_eq_record (o : Outcomes) (b : Bucket) (outcome : Outcome) :
    o.increment b outcome = ((o.tally b).count outcome + 1, o.record b outcome) := by
  rw [record, increment_eq]

theorem getElem?_processors_record (o : Outcomes) (b : Bucket) (outcome : Outcome)
    (processor : String) :
    (o.record b outcome).processors[processor]? =
      if b.processor = processor then
        some ((o.codesOf b.processor).insert b.code ((o.tally b).add outcome))
      else o.processors[processor]? := by
  rw [record, increment_eq]
  simp [Std.ExtTreeMap.getElem?_insert]

theorem mem_processors_record {o : Outcomes} {b : Bucket} {outcome : Outcome}
    {processor : String} :
    processor ∈ (o.record b outcome).processors ↔
      b.processor = processor ∨ processor ∈ o.processors := by
  rw [record, increment_eq, Std.ExtTreeMap.mem_insert, Std.LawfulEqOrd.compare_eq_iff_eq]

theorem codesOf_record (o : Outcomes) (b : Bucket) (outcome : Outcome) (processor : String) :
    (o.record b outcome).codesOf processor =
      if b.processor = processor then
        (o.codesOf processor).insert b.code ((o.tally b).add outcome)
      else o.codesOf processor := by
  rw [codesOf, Std.ExtTreeMap.getD_eq_getD_getElem?, getElem?_processors_record]
  split
  · rename_i hp
    rw [hp, Option.getD_some]
  · rw [codesOf, Std.ExtTreeMap.getD_eq_getD_getElem?]

theorem get?_record (o : Outcomes) (b c : Bucket) (outcome : Outcome) :
    (o.record b outcome).get? c =
      if b = c then some ((o.tally b).add outcome) else o.get? c := by
  rw [← getElem?_codesOf, ← getElem?_codesOf, codesOf_record]
  by_cases hp : b.processor = c.processor
  · have hb : b = c ↔ b.code = c.code := by
      cases b; cases c
      simp_all
    rw [if_pos hp, Std.ExtTreeMap.getElem?_insert]
    simp only [Std.LawfulEqOrd.compare_eq_iff_eq, hb]
  · have hb : b ≠ c := fun h => hp (congrArg Bucket.processor h)
    rw [if_neg hp, if_neg hb]

theorem tally_record (o : Outcomes) (b c : Bucket) (outcome : Outcome) :
    (o.record b outcome).tally c = if b = c then (o.tally b).add outcome else o.tally c := by
  rw [tally, get?_record]
  split <;> rfl

@[simp] theorem tally_record_self (o : Outcomes) (b : Bucket) (outcome : Outcome) :
    (o.record b outcome).tally b = (o.tally b).add outcome := by simp [tally_record]

theorem mem_snapshot {o : Outcomes} {processor : String} {listed : List (Int32 × Tally)} :
    (processor, listed) ∈ o.snapshot ↔
      ∃ codes, o.processors[processor]? = some codes ∧ codes.toList = listed := by
  rw [snapshot, List.mem_map]
  constructor
  · rintro ⟨⟨p, codes⟩, hmem, heq⟩
    obtain ⟨rfl, rfl⟩ := Prod.mk.inj heq
    exact ⟨codes, Std.ExtTreeMap.mem_toList_iff_getElem?_eq_some.mp hmem, rfl⟩
  · rintro ⟨codes, hcodes, rfl⟩
    exact ⟨(processor, codes), Std.ExtTreeMap.mem_toList_iff_getElem?_eq_some.mpr hcodes, rfl⟩

theorem exists_mem_snapshot_iff {o : Outcomes} {b : Bucket} {t : Tally} :
    (∃ listed, (b.processor, listed) ∈ o.snapshot ∧ (b.code, t) ∈ listed) ↔
      o.get? b = some t := by
  simp only [mem_snapshot, get?, Option.bind_eq_bind, Option.bind_eq_some_iff]
  constructor
  · rintro ⟨_, ⟨codes, hcodes, rfl⟩, ht⟩
    exact ⟨codes, hcodes, Std.ExtTreeMap.mem_toList_iff_getElem?_eq_some.mp ht⟩
  · rintro ⟨codes, hcodes, ht⟩
    exact ⟨_, ⟨codes, hcodes, rfl⟩, Std.ExtTreeMap.mem_toList_iff_getElem?_eq_some.mpr ht⟩

theorem get?_of_mem_snapshot {o : Outcomes} {processor : String} {code : Int32} {t : Tally}
    {codes : List (Int32 × Tally)} (h : (processor, codes) ∈ o.snapshot) (hc : (code, t) ∈ codes) :
    o.get? ⟨processor, code⟩ = some t :=
  exists_mem_snapshot_iff.mp ⟨codes, h, hc⟩

theorem mem_toList {o : Outcomes} {b : Bucket} {t : Tally} :
    (b, t) ∈ o.toList ↔ o.get? b = some t := by
  rw [← exists_mem_snapshot_iff, toList, List.mem_flatMap]
  constructor
  · rintro ⟨⟨p, listed⟩, hp, ht⟩
    obtain ⟨⟨c, u⟩, hc, heq⟩ := List.mem_map.mp ht
    obtain ⟨rfl, rfl⟩ := Prod.mk.inj heq
    exact ⟨listed, hp, hc⟩
  · rintro ⟨listed, hp, ht⟩
    exact ⟨(b.processor, listed), hp, List.mem_map.mpr ⟨(b.code, t), ht, rfl⟩⟩

end Outcomes

end RetryTrial
