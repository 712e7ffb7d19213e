import Std.Data.ExtTreeMap
import RetryTrial.Text.Digit

/-!
# Identifiers

A `Uuid` names an attempt, an account, a payment method, a tenant or a record of the billing
system. It is written as 32 small hexadecimal digits in groups of 8, 4, 4, 4 and 12. On reading,
the digits may have either case; they may also stand without hyphens, and the hyphenated form may
stand in braces or after `urn:uuid:`. What `toText` writes, `ofText?` reads back.
-/

namespace RetryTrial

structure Uuid where
  bits : BitVec 128
deriving DecidableEq

namespace Uuid
open Text

instance : Inhabited Uuid := ⟨⟨0⟩⟩

instance : Ord Uuid := ⟨compareOn Uuid.bits⟩

instance : Std.TransOrd Uuid := inferInstanceAs (Std.TransCmp (compareOn Uuid.bits))

instance : Std.LawfulEqOrd Uuid where
  eq_of_compare {a b} h := by
    cases a; cases b
    exact congrArg Uuid.mk (Std.LawfulEqOrd.eq_of_compare h)

def digits (u : Uuid) : List Char := hexDigits 32 u.bits.toNat

def ofDigits? (cs : List Char) : Option Uuid :=
  if cs.length = 32 then (hexNumber? cs).map fun n => ⟨BitVec.ofNat 128 n⟩ else none

/-- A hyphen after each group of the given lengths. -/
def hyphenate : List Nat → List Char → List Char
  | [], cs => cs
  | n :: ns, cs => cs.take n ++ '-' :: hyphenate ns (cs.drop n)

def unhyphenate? : List Nat → List Char → Option (List Char)
  | [], cs => some cs
  | n :: ns, cs =>
    match cs.drop n with
    | '-' :: rest => (unhyphenate? ns rest).map (cs.take n ++ ·)
    | _ => none

def groups : List Nat := [8, 4, 4, 4]

def toText (u : Uuid) : String := String.ofList (hyphenate groups u.digits)

instance : ToString Uuid := ⟨toText⟩

/-- The hyphenated form out of its braces or from behind its scheme. -/
def unwrap (cs : List Char) : List Char :=
  match cs with
  | '{' :: rest => if rest.getLast? = some '}' then rest.dropLast else cs
  | _ =>
    if "urn:uuid:".toList.isPrefixOf cs || "URN:UUID:".toList.isPrefixOf cs then cs.drop 9 else cs

def ofText? (s : String) : Option Uuid :=
  let cs := s.toList
  match ofDigits? cs with
  | some u => some u
  | none => (unhyphenate? groups (unwrap cs)).bind ofDigits?

theorem ofDigits?_digits (u : Uuid) : ofDigits? u.digits = some u := by
  have h : u.bits.toNat % Nat.pow 16 32 = u.bits.toNat := Nat.mod_eq_of_lt u.bits.isLt
  unfold ofDigits? digits
  rw [if_pos (length_hexDigits 32 _), hexNumber?_hexDigits, h]
  simp

theorem unhyphenate?_hyphenate (ns : List Nat) (cs : List Char)
    (h : ns.foldr (· + ·) 0 ≤ cs.length) :
    unhyphenate? ns (hyphenate ns cs) = some cs := by
  induction ns generalizing cs with
  | nil => rfl
  | cons n ns ih =>
    have hn : n ≤ cs.length := by simp only [List.foldr_cons] at h; omega
    have hlen : (cs.take n).length = n := by simp [hn]
    have hrest : ns.foldr (· + ·) 0 ≤ (cs.drop n).length := by
      simp only [List.foldr_cons, List.length_drop] at h ⊢; omega
    simp [hyphenate, unhyphenate?, hlen, ih _ hrest]

theorem length_hyphenate (ns : List Nat) (cs : List Char) :
    (hyphenate ns cs).length = cs.length + ns.length := by
  induction ns generalizing cs with
  | nil => rfl
  | cons n ns ih => simp [hyphenate, ih]; omega

theorem head?_hexDigits (count n : Nat) :
    (hexDigits (count + 1) n).head? = some (hexChar (n / Nat.pow 16 count)) := by
  induction count generalizing n with
  | zero => simp [hexDigits]
  | succ count ih =>
    rw [hexDigits, List.head?_append, ih]
    have hp : Nat.pow 16 (count + 1) = 16 * Nat.pow 16 count := Nat.pow_succ'
    simp only [hp, Nat.div_div_eq_div_mul, Option.some_or]

theorem unwrap_hyphenate_digits (u : Uuid) :
    unwrap (hyphenate groups u.digits) = hyphenate groups u.digits := by
  have hhead : (hyphenate groups u.digits).head? =
      some (hexChar (u.bits.toNat / Nat.pow 16 31)) := by
    simp [groups, hyphenate, digits, List.head?_append, List.head?_take, head?_hexDigits]
  have hopen : ∀ n, hexChar n ≠ '{' ∧ hexChar n ≠ 'u' ∧ hexChar n ≠ 'U' := by
    intro n
    have h : ∀ d : Fin 16,
        Nat.digitChar d ≠ '{' ∧ Nat.digitChar d ≠ 'u' ∧ Nat.digitChar d ≠ 'U' := by decide
    exact h ⟨n % 16, Nat.mod_lt n (by decide)⟩
  cases h : hyphenate groups u.digits with
  | nil => simp [h] at hhead
  | cons c cs =>
    obtain ⟨hbrace, hsmall, hcapital⟩ := hopen (u.bits.toNat / Nat.pow 16 31)
    have hc : c = hexChar (u.bits.toNat / Nat.pow 16 31) := by simpa [h] using hhead
    rw [← hc] at hbrace hsmall hcapital
    unfold unwrap
    split
    · rename_i heq
      exact absurd (List.cons.inj heq).1 hbrace
    · simp [Ne.symm hsmall, Ne.symm hcapital]

@[simp] theorem ofText?_toText (u : Uuid) : ofText? u.toText = some u := by
  have hlen : (hyphenate groups u.digits).length = 36 := by
    simp [length_hyphenate, digits, groups]
  have hread : unhyphenate? groups (hyphenate groups u.digits) = some u.digits :=
    unhyphenate?_hyphenate _ _ (by simp [groups, digits])
  have hsimple : ofDigits? (hyphenate groups u.digits) = none := by simp [ofDigits?, hlen]
  simp [ofText?, toText, unwrap_hyphenate_digits, hread, ofDigits?_digits, hsimple]

end Uuid

end RetryTrial
