import RetryTrial.Json.Document
import RetryTrial.Proofs.Text.Numeral

/-!
# The text of a document

The compact text of a document has the tokens of the document. A number ends at the character behind
it, so this is stated for texts behind which a comma, a closing bracket or nothing stands.
-/

namespace RetryTrial.Json
open Text (digit? digitValue digit?_eq_some_iff)
open Document (integerChars escapeChar quote)

/-- What may stand behind a value. -/
inductive Closes : List Char → Prop
  | finish : Closes []
  | comma (cs : List Char) : Closes (',' :: cs)
  | bracket (cs : List Char) : Closes (']' :: cs)
  | brace (cs : List Char) : Closes ('}' :: cs)

section Numbers

variable {phase : Phase} {l : Literal} {digits rest : List Char}

theorem charTokens_number_cons {phase' : Phase} {l' : Literal} {c : Char}
    (h : phase.next? l c = some (phase', l')) :
    charTokens (.number phase l) (c :: rest) = charTokens (.number phase' l') rest := by
  simp [charTokens_cons, Stage.next, h]

theorem charTokens_number_end (hphase : phase.complete = true) (h : Closes rest) :
    charTokens (.number phase l) rest = l.inOrder.token :: charTokens .between rest := by
  cases h with
  | finish => simp [Stage.finish, hphase]
  | comma cs | bracket cs | brace cs =>
      cases phase with
      | zero | whole | fraction | exponentDigits => rfl
      | minus | point | exponent | exponentSign => cases hphase

theorem charTokens_digits (push : List ℕ → Literal)
    (hnext : ∀ before c d, digit? c = some d →
      phase.next? (push before) c = some (phase, push (d :: before)))
    (h : ∀ c ∈ digits, c.isDigit = true) (before : List ℕ) :
    charTokens (.number phase (push before)) (digits ++ rest) =
      charTokens (.number phase (push ((digits.map digitValue).reverse ++ before))) rest := by
  induction digits generalizing before with
  | nil => rfl
  | cons c digits ih =>
      rw [List.forall_mem_cons] at h
      have hc : digit? c = some (digitValue c) := digit?_eq_some_iff.mpr ⟨h.1, rfl⟩
      rw [List.cons_append, charTokens_number_cons (hnext before c _ hc), ih h.2]
      simp

/-- The phase in which the digits of a number are complete. -/
def wholePhase (n : ℕ) : Phase := if n = 0 then .zero else .whole

theorem wholePhase_complete (n : ℕ) : (wholePhase n).complete = true := by
  unfold wholePhase
  split <;> rfl

theorem toDigits_ten_eq (n : ℕ) :
    (n = 0 ∧ Nat.toDigits 10 n = ['0']) ∨
      (n ≠ 0 ∧ ∃ c cs, Nat.toDigits 10 n = c :: cs ∧ c ≠ '0') := by
  induction n using Nat.strongRecOn with
  | ind n ih =>
      by_cases hlt : n < 10
      · rw [Nat.toDigits_of_lt_base hlt]
        have hdigit : ∀ d : Fin 10, (d.val = 0 ∧ [d.val.digitChar] = ['0']) ∨
            (d.val ≠ 0 ∧ d.val.digitChar ≠ '0') := by decide
        rcases hdigit ⟨n, hlt⟩ with hzero | ⟨hn, hc⟩
        · exact .inl hzero
        · exact .inr ⟨hn, _, _, rfl, hc⟩
      · rw [Nat.toDigits_of_base_le (by decide) (by omega)]
        rcases ih (n / 10) (by omega) with ⟨hzero, -⟩ | ⟨-, c, cs, hcs, hc⟩
        · omega
        · exact .inr ⟨by omega, c, cs ++ [(n % 10).digitChar], by rw [hcs]; rfl, hc⟩

theorem isDigit_of_mem_toDigits_ten {n : ℕ} : ∀ c ∈ Nat.toDigits 10 n, c.isDigit = true :=
  fun _ hc => Nat.isDigit_of_mem_toDigits (by decide) (by decide) hc

theorem decimalDigits_reverse_of_cons {n : ℕ} {c : Char} {cs : List Char}
    (h : Nat.toDigits 10 n = c :: cs) :
    digit? c = some (digitValue c) ∧ (∀ d ∈ cs, d.isDigit = true) ∧
      (decimalDigits n).reverse = (cs.map digitValue).reverse ++ [digitValue c] := by
  have hall := isDigit_of_mem_toDigits_ten (n := n)
  rw [h, List.forall_mem_cons] at hall
  refine ⟨digit?_eq_some_iff.mpr ⟨hall.1, rfl⟩, hall.2, ?_⟩
  rw [decimalDigits, h, List.map_cons, List.reverse_cons]
  rfl

theorem charTokens_first_digit {stage : Stage} {negative : Bool} {n : ℕ}
    (hzero : stage.next '0' = ([], some (.number .zero ⟨negative, [0], [], none⟩)))
    (hdigit : ∀ c d, c ≠ '0' → digit? c = some d →
      stage.next c = ([], some (.number .whole ⟨negative, [d], [], none⟩))) :
    charTokens stage (Nat.toDigits 10 n ++ rest) =
      charTokens (.number (wholePhase n) ⟨negative, (decimalDigits n).reverse, [], none⟩) rest := by
  rcases toDigits_ten_eq n with ⟨hn, hdigits⟩ | ⟨hn, c, cs, hcs, hc⟩
  · rw [wholePhase, if_pos hn, decimalDigits, hdigits, List.singleton_append, charTokens_cons,
      hzero]
    rfl
  · obtain ⟨hd, hall, hreverse⟩ := decimalDigits_reverse_of_cons hcs
    rw [wholePhase, if_neg hn, hreverse, hcs, List.cons_append, charTokens_cons,
      hdigit c _ hc hd]
    exact charTokens_digits (fun digits => ⟨negative, digits, [], none⟩)
      (fun before c d hd => by simp [Phase.next?, hd]) hall _

theorem digit?_zero_iff {c : Char} : digit? c = some 0 ↔ c = '0' := by
  constructor
  · intro h
    have hc : 48 ≤ c.toNat := by
      have hdigit := (digit?_eq_some_iff.mp h).1
      simp only [Char.isDigit, Bool.and_eq_true, decide_eq_true_eq] at hdigit
      exact hdigit.1
    have hvalue : c.toNat - 48 = 0 := (digit?_eq_some_iff.mp h).2
    have hzero : '0'.toNat = 48 := rfl
    exact Char.toNat_inj.mp (by omega)
  · rintro rfl
    rfl

theorem start_of_digit {c : Char} {d : ℕ} (hc : c ≠ '0') (hd : digit? c = some d) :
    Stage.start c = ([], some (.number .whole ⟨false, [d], [], none⟩)) := by
  unfold Stage.start
  split <;> first
    | exact absurd rfl hc
    | simp only [hd]
    | simp [digit?] at hd

theorem charTokens_integerChars (i : ℤ) :
    charTokens .between (integerChars i ++ rest) =
      charTokens (.number (wholePhase i.natAbs)
        ⟨decide (i < 0), (decimalDigits i.natAbs).reverse, [], none⟩) rest := by
  by_cases hi : i < 0
  · have hminus : ∀ c d, c ≠ '0' → digit? c = some d →
        (Stage.number .minus (.empty true)).next c =
          ([], some (.number .whole ⟨true, [d], [], none⟩)) := by
      intro c d hc hd
      cases d with
      | zero => exact absurd (digit?_zero_iff.mp hd) hc
      | succ d => simp [Stage.next, Phase.next?, hd, Literal.empty]
    rw [integerChars, if_pos hi, decide_eq_true hi, List.append_assoc, List.singleton_append,
      charTokens_cons]
    exact charTokens_first_digit rfl hminus
  · rw [integerChars, if_neg hi, decide_eq_false hi, List.nil_append]
    exact charTokens_first_digit rfl fun c d => start_of_digit

theorem charTokens_first_exponentDigit {negative : Bool} {n : ℕ}
    (h : ∀ c d, digit? c = some d → phase.next? l c =
      some (.exponentDigits, { l with exponent := some (negative, [d]) })) :
    charTokens (.number phase l) (Nat.toDigits 10 n ++ rest) =
      charTokens (.number .exponentDigits
        { l with exponent := some (negative, (decimalDigits n).reverse) }) rest := by
  obtain ⟨c, cs, hcs⟩ := List.exists_cons_of_ne_nil (Nat.toDigits_ne_nil (n := n) (b := 10))
  obtain ⟨hd, hall, hreverse⟩ := decimalDigits_reverse_of_cons hcs
  rw [hcs, List.cons_append, charTokens_number_cons (h c _ hd), hreverse]
  exact charTokens_digits (fun digits => { l with exponent := some (negative, digits) })
    (fun before c d hd => by simp [Phase.next?, hd]) hall _

theorem charTokens_exponent (n : ℕ) (e : ℤ) :
    charTokens (.number (wholePhase n) l) ('e' :: (integerChars e ++ rest)) =
      charTokens (.number .exponentDigits
        { l with exponent := some (decide (e < 0), (decimalDigits e.natAbs).reverse) }) rest := by
  have hmark : (wholePhase n).next? l 'e' = some (.exponent, l) := by
    unfold wholePhase
    split <;> rfl
  rw [charTokens_number_cons hmark]
  by_cases he : e < 0
  · rw [integerChars, if_pos he, decide_eq_true he, List.append_assoc, List.singleton_append,
      charTokens_number_cons rfl]
    exact charTokens_first_exponentDigit fun c d hd => by simp [Phase.next?, hd]
  · rw [integerChars, if_neg he, decide_eq_false he, List.nil_append]
    exact charTokens_first_exponentDigit fun c d hd => by simp [Phase.next?, hd]

end Numbers

section Strings

def piece (c : Char) : Piece := if c.toNat < 0x20 then .unit c.toNat else .char c

theorem joinPieces?_unit {value : ℕ} (h : value < 0x20) (ps : List Piece) :
    joinPieces? (.unit value :: ps) = (joinPieces? ps).map (Char.ofNat value :: ·) := by
  have hlow : ¬ (0xD800 ≤ value ∧ value < 0xE000) := by omega
  cases ps with
  | nil => simp [joinPieces?, hlow]
  | cons p ps => cases p <;> simp [joinPieces?, hlow]

theorem joinPieces?_map_piece (cs : List Char) : joinPieces? (cs.map piece) = some cs := by
  induction cs with
  | nil => rfl
  | cons c cs ih =>
      rw [List.map_cons, piece]
      by_cases hc : c.toNat < 0x20
      · rw [if_pos hc, joinPieces?_unit hc, ih, Char.ofNat_toNat]
        rfl
      · rw [if_neg hc, joinPieces?, ih]
        rfl

theorem charTokens_escapeChar (ps : List Piece) (c : Char) (rest : List Char) :
    charTokens (.string ps) (escapeChar c ++ rest) =
      charTokens (.string (piece c :: ps)) rest := by
  unfold escapeChar
  by_cases hquote : c = '"'
  · subst hquote
    rfl
  · by_cases hbackslash : c = '\\'
    · subst hbackslash
      rfl
    · by_cases hcontrol : c.toNat < 0x20
      · have hvalue : 16 * (c.toNat / 16 % 16) + c.toNat % 16 = c.toNat := by omega
        have hzero : Text.hexValue? '0' = some 0 := rfl
        simp [hquote, hbackslash, hcontrol, piece, charTokens_cons, Stage.next, hzero, hvalue]
      · simp [hquote, hbackslash, hcontrol, piece, charTokens_cons, Stage.next]

theorem charTokens_string (s : String) (rest : List Char) :
    charTokens .between (quote s ++ rest) = .text s :: charTokens .between rest := by
  have hinside : ∀ (cs : List Char) (ps : List Piece),
      charTokens (.string ps) (cs.flatMap escapeChar ++ '"' :: rest) =
        textToken (ps.reverse ++ cs.map piece) :: charTokens .between rest := by
    intro cs
    induction cs with
    | nil => intro ps; simp [charTokens_cons, Stage.next]
    | cons c cs ih =>
        intro ps
        rw [List.flatMap_cons, List.append_assoc, charTokens_escapeChar, ih]
        simp
  have htoken : textToken (s.toList.map piece) = .text s := by
    rw [textToken, joinPieces?_map_piece]
    simp
  have hquote : quote s ++ rest =
      '"' :: (s.toList.flatMap escapeChar ++ '"' :: rest) := by simp [quote]
  rw [hquote, ← htoken]
  exact hinside s.toList []

end Strings

section Documents
open Document

theorem closes_itemChars (ds : List Document) (rest : List Char) :
    Closes (itemChars ds ++ rest) := by
  cases ds with
  | nil => exact .bracket rest
  | cons d ds => exact .comma _

theorem closes_memberChars (ms : List (String × Document)) (rest : List Char) :
    Closes (memberChars ms ++ rest) := by
  cases ms with
  | nil => exact .brace rest
  | cons m ms => exact .comma _

theorem charTokens_integer {rest : List Char} (i : ℤ) (h : Closes rest) :
    charTokens .between (integerChars i ++ rest) =
      (integerLiteral i).token :: charTokens .between rest := by
  rw [charTokens_integerChars, charTokens_number_end (wholePhase_complete _) h]
  simp [Literal.inOrder, integerLiteral]

theorem charTokens_decimal {rest : List Char} (c e : ℤ) (h : Closes rest) :
    charTokens .between (integerChars c ++ 'e' :: (integerChars e ++ rest)) =
      (decimalLiteral c e).token :: charTokens .between rest := by
  rw [charTokens_integerChars, charTokens_exponent, charTokens_number_end rfl h]
  simp [Literal.inOrder, decimalLiteral]

theorem charTokens_open {c : Char} {t : Token} (h : Stage.start c = ([t], some .between))
    (rest : List Char) : charTokens .between (c :: rest) = t :: charTokens .between rest := by
  rw [charTokens_cons, Stage.next, h]
  rfl

-- The induction is on the document. Behind an item or a member stands what closes it.
mutual

theorem charTokens_chars (d : Document) {rest : List Char} (h : Closes rest) :
    charTokens .between (d.chars ++ rest) = d.tokens ++ charTokens .between rest := by
  cases d with
  | null => rfl
  | flag b => cases b <;> rfl
  | integer i => exact charTokens_integer i h
  | decimal c e =>
      rw [chars, List.append_assoc, List.cons_append]
      exact charTokens_decimal c e h
  | text s => exact charTokens_string s rest
  | array ds =>
      cases ds with
      | nil => rfl
      | cons d ds =>
          rw [chars, Document.tokens, List.cons_append, List.append_assoc, charTokens_open rfl,
            charTokens_chars d (closes_itemChars ds rest), charTokens_itemChars ds rest]
          simp
  | object ms =>
      cases ms with
      | nil => rfl
      | cons m ms =>
          obtain ⟨name, d⟩ := m
          rw [chars, Document.tokens, List.cons_append, List.append_assoc, charTokens_open rfl,
            charTokens_string, List.cons_append, charTokens_open rfl, List.append_assoc,
            charTokens_chars d (closes_memberChars ms rest), charTokens_memberChars ms rest]
          simp

theorem charTokens_itemChars (ds : List Document) (rest : List Char) :
    charTokens .between (itemChars ds ++ rest) = itemTokens ds ++ charTokens .between rest := by
  cases ds with
  | nil => rfl
  | cons d ds =>
      rw [itemChars, itemTokens, List.cons_append, List.append_assoc, charTokens_open rfl,
        charTokens_chars d (closes_itemChars ds rest), charTokens_itemChars ds rest]
      simp

theorem charTokens_memberChars (ms : List (String × Document)) (rest : List Char) :
    charTokens .between (memberChars ms ++ rest) =
      memberTokens ms ++ charTokens .between rest := by
  cases ms with
  | nil => rfl
  | cons m ms =>
      obtain ⟨name, d⟩ := m
      rw [memberChars, memberTokens, List.cons_append, List.append_assoc, charTokens_open rfl,
        charTokens_string, List.cons_append, charTokens_open rfl, List.append_assoc,
        charTokens_chars d (closes_memberChars ms rest), charTokens_memberChars ms rest]
      simp

end

theorem tokens_print (d : Document) : Json.tokens d.print = d.tokens := by
  have h := charTokens_chars d .finish
  rw [List.append_nil] at h
  rw [Json.tokens, print, String.toList_ofList, h]
  simp [Stage.finish]

end Documents

end RetryTrial.Json
