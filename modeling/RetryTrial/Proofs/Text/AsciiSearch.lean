import Mathlib.Data.List.Forall2
import RetryTrial.Text.Casing

/-!
# Looking for ASCII words in the small form of a text

The small form of a text turns two letters beyond ASCII into ASCII ones: the Kelvin sign becomes a
`k`, and a dotted capital I becomes an `i` with a mark after it. An ASCII word that has no `k` and
does not end in `i` is therefore found in the small form of a text exactly where the text has its
letters, capital or small.
-/

namespace RetryTrial.Text

def IsAscii (c : Char) : Prop := c.toNat < 128

instance (c : Char) : Decidable (IsAscii c) := inferInstanceAs (Decidable (_ < _))

/-- The word stands in the text in ASCII characters, each of its letters capital or small. -/
def Spelled (word cs : List Char) : Prop :=
  ∃ written, written <:+: cs ∧ (∀ c ∈ written, IsAscii c) ∧ sameIgnoringCase word written = true

/-- No letter beyond ASCII has a small form that could be taken for a part of this word: the word is
in small ASCII letters, without a `k`, and does not end in `i`. -/
structure Plain (word : List Char) : Prop where
  ascii : ∀ c ∈ word, IsAscii c
  small : ∀ c ∈ word, c.toLower = c
  noK : 'k' ∉ word
  noLastI : word.getLast? ≠ some 'i'

/-- The letters of a word are few, so they are gone through one by one and not all characters. -/
instance (word : List Char) : Decidable (Plain word) :=
  decidable_of_iff
    ((word.all fun c => IsAscii c ∧ c.toLower = c) = true ∧ 'k' ∉ word ∧
      word.getLast? ≠ some 'i') <| by
    simp only [List.all_eq_true, decide_eq_true_eq]
    constructor
    · rintro ⟨hall, hk, hi⟩
      exact ⟨fun c hc => (hall c hc).1, fun c hc => (hall c hc).2, hk, hi⟩
    · intro h
      exact ⟨fun c hc => ⟨h.ascii c hc, h.small c hc⟩, h.noK, h.noLastI⟩

/-- What the small form of a text can have in the place of a letter beyond ASCII. -/
inductive Stray : List Char → Prop
  | kelvin : Stray ['k']
  | dotted : Stray ['i', '\u0307']
  | beyond {c : Char} (h : ¬ IsAscii c) : Stray [c]

/-- The small forms of this run are characters, and all of them lie beyond ASCII. -/
def CapitalRun.BeyondAscii (r : CapitalRun) : Prop :=
  128 ≤ r.first + r.shift ∧
    (r.last + r.shift < 0xD800 ∨ 0xDFFF < r.first + r.shift ∧ r.last + r.shift < 0x110000)

instance (r : CapitalRun) : Decidable r.BeyondAscii := inferInstanceAs (Decidable (_ ∧ _))

theorem kelvin_or_beyond_of_mem : ∀ r ∈ capitalRuns,
    (r.first = 0x212A ∧ r.last = 0x212A ∧ r.shift = -8383) ∨ r.BeyondAscii := by
  decide +kernel

variable {word cs ds : List Char} {c : Char}

theorem toLower_of_not_ascii (h : ¬ IsAscii c) : c.toLower = c := by
  have hz : ¬ c.val ≤ 'Z'.val := by
    intro hle
    have hnat : c.toNat ≤ 90 := hle
    exact h (by unfold IsAscii; omega)
  exact dif_neg fun hc => hz hc.2

theorem toNat_ofNat_of_valid {n : ℕ} (h : n.isValidChar) : (Char.ofNat n).toNat = n := by
  rw [Char.ofNat, dif_pos h]
  rfl

theorem stray_of_covers {r : CapitalRun} (hr : r ∈ capitalRuns) (hc : r.Covers c.toNat) :
    Stray [Char.ofNat (c.toNat + r.shift).toNat] := by
  obtain ⟨hfirst, hlast, -⟩ := hc
  rcases kelvin_or_beyond_of_mem r hr with ⟨hf, hl, hs⟩ | ⟨hlow, hhigh⟩
  · have hn : c.toNat = 0x212A := by omega
    rw [hn, hs]
    exact Stray.kelvin
  · have hvalid : (c.toNat + r.shift).toNat.isValidChar := by
      rcases hhigh with hhigh | ⟨hmid, hhigh⟩
      · exact Or.inl (by omega)
      · exact Or.inr ⟨by omega, by omega⟩
    apply Stray.beyond
    rw [IsAscii, toNat_ofNat_of_valid hvalid]
    omega

theorem stray_lowerLetter (h : ¬ IsAscii c) : Stray (lowerLetter c) := by
  have hlarge : ¬ c.toNat < 128 := h
  rw [lowerLetter, if_neg hlarge]
  split_ifs with hdot
  · exact Stray.dotted
  · split
    · rename_i r hr
      have hcovers := List.find?_some hr
      exact stray_of_covers (List.mem_of_find?_eq_some hr) (of_decide_eq_true hcovers)
    · exact Stray.beyond h

theorem stray_lowerBetween (h : ¬ IsAscii c) (before after : List Char) :
    Stray (lowerBetween before c after) := by
  rw [lowerBetween]
  split_ifs
  · exact Stray.beyond (by decide)
  · exact Stray.beyond (by decide)
  · exact stray_lowerLetter h

theorem lowerBetween_of_ascii (h : IsAscii c) (before after : List Char) :
    lowerBetween before c after = [c.toLower] := by
  have hsigma : c ≠ capitalSigma := by
    rintro rfl
    exact absurd h (by decide)
  rw [lowerBetween, if_neg hsigma, lowerLetter_of_ascii c h]

theorem Plain.tail (h : Plain (c :: word)) : Plain word where
  ascii d hd := h.ascii d (List.mem_cons_of_mem c hd)
  small d hd := h.small d (List.mem_cons_of_mem c hd)
  noK hk := h.noK (List.mem_cons_of_mem c hk)
  noLastI hi := h.noLastI (by
    rw [List.getLast?_cons, hi]
    rfl)

theorem Plain.lowerAfter (h : Plain word) (before : List Char) : lowerAfter before word = word := by
  induction word generalizing before with
  | nil => rfl
  | cons c word ih =>
      have hascii : IsAscii c := h.ascii c List.mem_cons_self
      have hsmall : c.toLower = c := h.small c List.mem_cons_self
      rw [Text.lowerAfter, lowerBetween_of_ascii hascii, hsmall, ih h.tail]
      rfl

theorem Stray.not_isPrefix {letters : List Char} (hs : Stray letters) (h : Plain (c :: word))
    (rest : List Char) : ¬ c :: word <+: letters ++ rest := by
  intro hp
  cases hs with
  | kelvin =>
      obtain ⟨rfl, -⟩ := List.cons_prefix_cons.mp hp
      exact h.noK List.mem_cons_self
  | dotted =>
      obtain ⟨rfl, hmark⟩ := List.cons_prefix_cons.mp hp
      cases word with
      | nil => exact h.noLastI rfl
      | cons d word =>
          obtain ⟨rfl, -⟩ := List.cons_prefix_cons.mp hmark
          exact absurd (h.ascii '\u0307' (by simp)) (by decide)
  | beyond hbeyond =>
      obtain ⟨rfl, -⟩ := List.cons_prefix_cons.mp hp
      exact hbeyond (h.ascii _ List.mem_cons_self)

theorem Stray.infix_append_iff {letters : List Char} (hs : Stray letters) (h : Plain (c :: word))
    (rest : List Char) : c :: word <:+: letters ++ rest ↔ c :: word <:+: rest := by
  have hfirst := hs.not_isPrefix h rest
  cases hs with
  | kelvin => exact List.infix_cons_iff.trans (or_iff_right hfirst)
  | dotted =>
      have hmark : ¬ c :: word <+: '\u0307' :: rest :=
        (Stray.beyond (by decide : ¬ IsAscii '\u0307')).not_isPrefix h rest
      exact (List.infix_cons_iff.trans (or_iff_right hfirst)).trans
        (List.infix_cons_iff.trans (or_iff_right hmark))
  | beyond _ => exact List.infix_cons_iff.trans (or_iff_right hfirst)

-- The induction is on the word, and a letter beyond ASCII ends it: no plain word goes on there, in
-- the small form or in the text itself.
theorem prefix_lowerAfter_iff (h : Plain word) (before cs : List Char) :
    word <+: lowerAfter before cs ↔ word <+: cs.map Char.toLower := by
  induction word generalizing before cs with
  | nil => simp
  | cons w word ih =>
      cases cs with
      | nil => rfl
      | cons c cs =>
          rw [lowerAfter, List.map_cons]
          by_cases hc : IsAscii c
          · rw [lowerBetween_of_ascii hc, List.singleton_append, List.cons_prefix_cons,
              List.cons_prefix_cons, ih h.tail]
          · have hkept : ¬ w :: word <+: c.toLower :: cs.map Char.toLower := by
              rw [toLower_of_not_ascii hc]
              exact (Stray.beyond hc).not_isPrefix h _
            exact iff_of_false ((stray_lowerBetween hc before cs).not_isPrefix h _) hkept

/-- A plain word stands in the small form of a text exactly if it does once the ASCII letters alone
have been made small. -/
theorem infix_lowerAfter_iff (h : Plain (c :: word)) (before cs : List Char) :
    c :: word <:+: lowerAfter before cs ↔ c :: word <:+: cs.map Char.toLower := by
  induction cs generalizing before with
  | nil => rfl
  | cons d cs ih =>
      rw [List.map_cons]
      by_cases hd : IsAscii d
      · have hfront := prefix_lowerAfter_iff h before (d :: cs)
        rw [lowerAfter, lowerBetween_of_ascii hd, List.singleton_append] at hfront ⊢
        rw [List.infix_cons_iff, List.infix_cons_iff, hfront, List.map_cons, ih]
      · have hkept := (Stray.beyond hd).infix_append_iff h (cs.map Char.toLower)
        rw [toLower_of_not_ascii hd, lowerAfter,
          (stray_lowerBetween hd before cs).infix_append_iff h, ih]
        exact hkept.symm

theorem ascii_of_map_toLower {written : List Char} (hword : ∀ c ∈ word, IsAscii c)
    (h : word = written.map Char.toLower) : ∀ c ∈ written, IsAscii c := by
  intro c hc
  by_contra hnot
  have hmem : c.toLower ∈ word := by
    rw [h]
    exact List.mem_map_of_mem hc
  rw [toLower_of_not_ascii hnot] at hmem
  exact hnot (hword c hmem)

theorem spelled_iff_isInfix (h : Plain word) : Spelled word cs ↔ word <:+: cs.map Char.toLower := by
  have hsmall : word.map Char.toLower = word :=
    (List.map_congr_left h.small).trans (List.map_id' word)
  rw [List.infix_map_iff]
  constructor
  · rintro ⟨written, hin, -, hsame⟩
    rw [sameIgnoringCase_iff, hsmall] at hsame
    exact ⟨written, hin, hsame⟩
  · rintro ⟨written, hin, hsame⟩
    refine ⟨written, hin, ascii_of_map_toLower h.ascii hsame, ?_⟩
    rw [sameIgnoringCase_iff, hsmall, hsame]

/-- Looking for a plain word in the small form of a text is looking for it in the text up to the
case of ASCII letters. -/
theorem infix_lower_iff_spelled (h : Plain (c :: word)) :
    c :: word <:+: lower cs ↔ Spelled (c :: word) cs := by
  rw [lower, infix_lowerAfter_iff h, spelled_iff_isInfix h]

/-- Two texts with the same ASCII characters at the same places. -/
def SameAscii : List Char → List Char → Prop :=
  List.Forall₂ fun c d => c = d ∨ ¬ IsAscii c ∧ ¬ IsAscii d

theorem SameAscii.isPrefix (h : SameAscii cs ds) {written : List Char} (hp : written <+: cs)
    (hw : ∀ c ∈ written, IsAscii c) : written <+: ds := by
  induction h generalizing written with
  | nil => exact hp
  | cons hcd _ ih =>
      rcases List.prefix_cons_iff.mp hp with rfl | ⟨rest, rfl, hrest⟩
      · exact List.nil_prefix
      · rw [List.forall_mem_cons] at hw
        have heq := hcd.resolve_right fun hnot => hnot.1 hw.1
        rw [← heq]
        exact List.cons_prefix_cons.mpr ⟨rfl, ih hrest hw.2⟩

theorem SameAscii.isInfix (h : SameAscii cs ds) {written : List Char} (hi : written <:+: cs)
    (hw : ∀ c ∈ written, IsAscii c) : written <:+: ds := by
  induction h with
  | nil => exact hi
  | cons hcd hrest ih =>
      rcases List.infix_cons_iff.mp hi with hp | hi
      · exact (SameAscii.isPrefix (List.Forall₂.cons hcd hrest) hp hw).isInfix
      · exact (ih hi).trans (List.suffix_cons _ _).isInfix

theorem SameAscii.symm (h : SameAscii cs ds) : SameAscii ds cs :=
  h.flip.imp fun _ _ hcd => hcd.imp Eq.symm And.symm

theorem Spelled.of_sameAscii (h : SameAscii cs ds) (hs : Spelled word cs) : Spelled word ds := by
  obtain ⟨written, hin, hascii, hsame⟩ := hs
  exact ⟨written, h.isInfix hin hascii, hascii, hsame⟩

end RetryTrial.Text
