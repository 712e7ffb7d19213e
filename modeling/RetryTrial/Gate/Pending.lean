import Std.Data.ExtTreeMap
import RetryTrial.Traced

/-!
# Pending attempts

The attempts of the control group that wait for their outcome, each with the decline that preceded
it. Registering an attempt again replaces its decline and is logged; taking an attempt removes it.
-/

namespace RetryTrial

structure Pending where
  declines : Std.ExtTreeMap Uuid Decline
deriving DecidableEq

namespace Pending

def empty : Pending := ⟨∅⟩

def get? (p : Pending) (attempt : Uuid) : Option Decline := p.declines[attempt]?

def contains (p : Pending) (attempt : Uuid) : Bool := p.declines.contains attempt

def size (p : Pending) : Nat := p.declines.size

def insert (p : Pending) (attempt : Uuid) (decline : Decline) : Pending :=
  ⟨p.declines.insert attempt decline⟩

def erase (p : Pending) (attempt : Uuid) : Pending := ⟨p.declines.erase attempt⟩

def register (p : Pending) (attempt : Uuid) (decline : Decline) : Traced Pending := do
  if p.contains attempt then Traced.log (.pendingReplaced attempt)
  return p.insert attempt decline

/-- The decline of an attempt, and what is pending without it. -/
def take (p : Pending) (attempt : Uuid) : Option Decline × Pending :=
  (p.get? attempt, p.erase attempt)

@[simp] theorem get?_empty (attempt : Uuid) : empty.get? attempt = none := by simp [get?, empty]

theorem get?_insert (p : Pending) (a b : Uuid) (d : Decline) :
    (p.insert a d).get? b = if a = b then some d else p.get? b := by
  simp [get?, insert, Std.ExtTreeMap.getElem?_insert]

theorem get?_erase (p : Pending) (a b : Uuid) :
    (p.erase a).get? b = if a = b then none else p.get? b := by
  simp [get?, erase, Std.ExtTreeMap.getElem?_erase]

theorem contains_eq_isSome (p : Pending) (a : Uuid) : p.contains a = (p.get? a).isSome := by
  simp [contains, get?]

theorem ext_get? {p q : Pending} (h : ∀ a, p.get? a = q.get? a) : p = q := by
  cases p; cases q
  exact congrArg mk (Std.ExtTreeMap.ext_getElem? h)

theorem size_insert (p : Pending) (a : Uuid) (d : Decline) :
    (p.insert a d).size = if p.contains a then p.size else p.size + 1 := by
  simp [size, insert, contains, Std.ExtTreeMap.size_insert]

theorem size_erase (p : Pending) (a : Uuid) :
    (p.erase a).size = if p.contains a then p.size - 1 else p.size := by
  simp [size, erase, contains, Std.ExtTreeMap.size_erase]

theorem size_pos_of_contains {p : Pending} {a : Uuid} (h : p.contains a = true) : 0 < p.size := by
  rw [Nat.pos_iff_ne_zero]
  intro hs
  have he : p.declines = ∅ := Std.ExtTreeMap.eq_empty_iff_size_eq_zero.mpr hs
  simp [contains, he] at h

@[simp] theorem value_register (p : Pending) (a : Uuid) (d : Decline) :
    (p.register a d).value = p.insert a d := by
  unfold register; split <;> rfl

end Pending

end RetryTrial
