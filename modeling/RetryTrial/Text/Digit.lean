/-!
# Digits

`digit?` reads a decimal digit. `hexValue?` reads a hexadecimal digit of either case and `hexChar`
writes the small one; `hexNumber?` reads a run of them, most significant first, and takes back what
`hexDigits` writes. All digits are those of ASCII.
-/

namespace RetryTrial.Text

def digit? (c : Char) : Option Nat :=
  if '0' ≤ c ∧ c ≤ '9' then some (c.toNat - '0'.toNat) else none

def hexValue? (c : Char) : Option Nat :=
  if '0' ≤ c ∧ c ≤ '9' then some (c.toNat - '0'.toNat)
  else if 'a' ≤ c ∧ c ≤ 'f' then some (c.toNat - 'a'.toNat + 10)
  else if 'A' ≤ c ∧ c ≤ 'F' then some (c.toNat - 'A'.toNat + 10)
  else none

def hexChar (n : Nat) : Char := Nat.digitChar (n % 16)

def hexNumberFrom? (value : Nat) : List Char → Option Nat
  | [] => some value
  | c :: cs =>
    match hexValue? c with
    | some d => hexNumberFrom? (16 * value + d) cs
    | none => none

def hexNumber? (cs : List Char) : Option Nat := hexNumberFrom? 0 cs

/-- The last `count` digits of a number, most significant first. -/
def hexDigits : Nat → Nat → List Char
  | 0, _ => []
  | count + 1, n => hexDigits count (n / 16) ++ [hexChar n]

@[simp] theorem hexValue?_hexChar (n : Nat) : hexValue? (hexChar n) = some (n % 16) := by
  have h : ∀ d : Fin 16, hexValue? (Nat.digitChar d) = some d.val := by decide
  exact h ⟨n % 16, Nat.mod_lt n (by decide)⟩

@[simp] theorem length_hexDigits (count n : Nat) : (hexDigits count n).length = count := by
  induction count generalizing n with
  | zero => rfl
  | succ count ih => simp [hexDigits, ih]

theorem hexNumberFrom?_append (value : Nat) (cs : List Char) (d : Char) :
    hexNumberFrom? value (cs ++ [d]) =
      (hexNumberFrom? value cs).bind fun n => (hexValue? d).map (16 * n + ·) := by
  induction cs generalizing value with
  | nil => cases h : hexValue? d <;> simp [hexNumberFrom?, h]
  | cons c cs ih => cases h : hexValue? c <;> simp [hexNumberFrom?, h, ih]

theorem hexNumber?_hexDigits (count n : Nat) :
    hexNumber? (hexDigits count n) = some (n % Nat.pow 16 count) := by
  induction count generalizing n with
  | zero => simp [hexNumber?, hexDigits, hexNumberFrom?, Nat.mod_one]
  | succ count ih =>
    have ih' := ih (n / 16)
    simp only [hexNumber?] at ih' ⊢
    rw [hexDigits, hexNumberFrom?_append, ih']
    have h : n % (16 * Nat.pow 16 count) = n % 16 + 16 * (n / 16 % Nat.pow 16 count) := Nat.mod_mul
    have hp : Nat.pow 16 (count + 1) = 16 * Nat.pow 16 count := Nat.pow_succ'
    rw [hp, h]
    simp
    omega

end RetryTrial.Text
