import RetryTrial.Json.Document

/-!
# Passing over a value

The value of an unknown member is passed over as a whole: behind the tokens of any document the
reader goes on where the document ends, whatever is open around it.
-/

namespace RetryTrial.Json
open Document Expected

@[simp] theorem Literal.isScalar_token (l : Literal) : l.token.isScalar = true := by
  unfold Literal.token
  split <;> rfl

theorem Document.tokens_eq_cons (d : Document) :
    ∃ t ts, d.tokens = t :: ts ∧ t ≠ .closeBracket ∧ (d ≠ .null → t ≠ .null) := by
  have hnumber : ∀ l : Literal, l.token ≠ .closeBracket ∧ l.token ≠ .null := by
    intro l
    unfold Literal.token
    split <;> simp
  cases d with
  | null => exact ⟨_, _, rfl, by simp, fun h => absurd rfl h⟩
  | flag b | text s => exact ⟨_, _, rfl, by simp, by simp⟩
  | integer i | decimal c e => exact ⟨_, _, rfl, (hnumber _).1, fun _ => (hnumber _).2⟩
  | array ds => cases ds <;> exact ⟨_, _, rfl, by simp, by simp⟩
  | object ms => rcases ms with _ | ⟨m, ms⟩ <;> exact ⟨_, _, rfl, by simp, by simp⟩

section Steps

variable {nesting nesting' : List Nesting} {expected expected' : Expected} {t : Token}
  {ts rest : List Token}

theorem skipFrom_cons (h : expected.next nesting t = some (nesting', expected')) :
    skipFrom nesting expected (t :: ts) = skipFrom nesting' expected' ts := by
  cases expected with
  | done => cases h
  | _ => simp only [skipFrom, h]

theorem skipFrom_scalar (h : t.isScalar = true) :
    skipFrom nesting .value (t :: ts) = skipFrom nesting (afterValue nesting) ts := by
  apply skipFrom_cons
  cases t <;> first | rfl | cases h

theorem skipFrom_itemOrEnd (d : Document) :
    skipFrom nesting .itemOrEnd (d.tokens ++ rest) =
      skipFrom nesting .value (d.tokens ++ rest) := by
  obtain ⟨t, ts, hd, ht, -⟩ := d.tokens_eq_cons
  have hnext : next nesting .itemOrEnd t = next nesting .value t := by
    cases t with
    | closeBracket => exact absurd rfl ht
    | _ => cases nesting with
      | nil => rfl
      | cons n nesting => cases n <;> rfl
  simp only [hd, List.cons_append, skipFrom, hnext]

end Steps

-- The induction is on the document; its items and members are passed over inside what it opens.
mutual

theorem skipFrom_tokens (d : Document) (nesting : List Nesting) (rest : List Token) :
    skipFrom nesting .value (d.tokens ++ rest) = skipFrom nesting (afterValue nesting) rest := by
  cases d with
  | null | flag b | text s => exact skipFrom_scalar rfl
  | integer i | decimal c e => exact skipFrom_scalar (Literal.isScalar_token _)
  | array ds =>
      cases ds with
      | nil => exact (skipFrom_cons rfl).trans (skipFrom_cons rfl)
      | cons d ds =>
          rw [Document.tokens, List.cons_append, List.append_assoc, skipFrom_cons rfl,
            skipFrom_itemOrEnd, skipFrom_tokens d]
          exact skipFrom_itemTokens ds nesting rest
  | object ms =>
      cases ms with
      | nil => exact (skipFrom_cons rfl).trans (skipFrom_cons rfl)
      | cons m ms =>
          obtain ⟨name, d⟩ := m
          rw [Document.tokens, List.cons_append, List.cons_append, List.cons_append,
            List.append_assoc, skipFrom_cons rfl, skipFrom_cons rfl, skipFrom_cons rfl,
            skipFrom_tokens d]
          exact skipFrom_memberTokens ms nesting rest

theorem skipFrom_itemTokens (ds : List Document) (nesting : List Nesting) (rest : List Token) :
    skipFrom (.array :: nesting) .commaOrEnd (itemTokens ds ++ rest) =
      skipFrom nesting (afterValue nesting) rest := by
  cases ds with
  | nil => exact skipFrom_cons rfl
  | cons d ds =>
      rw [itemTokens, List.cons_append, List.append_assoc, skipFrom_cons rfl, skipFrom_tokens d]
      exact skipFrom_itemTokens ds nesting rest

theorem skipFrom_memberTokens (ms : List (String × Document)) (nesting : List Nesting)
    (rest : List Token) :
    skipFrom (.object :: nesting) .commaOrEnd (memberTokens ms ++ rest) =
      skipFrom nesting (afterValue nesting) rest := by
  cases ms with
  | nil => exact skipFrom_cons rfl
  | cons m ms =>
      obtain ⟨name, d⟩ := m
      rw [memberTokens, List.cons_append, List.cons_append, List.cons_append, List.append_assoc,
        skipFrom_cons rfl, skipFrom_cons rfl, skipFrom_cons rfl, skipFrom_tokens d]
      exact skipFrom_memberTokens ms nesting rest

end

@[simp] theorem skipValue_tokens (d : Document) (rest : List Token) :
    skipValue (d.tokens ++ rest) = some rest := by
  rw [skipValue, skipFrom_tokens]
  cases rest <;> rfl

end RetryTrial.Json
