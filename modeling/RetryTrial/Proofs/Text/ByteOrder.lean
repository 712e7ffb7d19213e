import Mathlib.Tactic.SplitIfs
import RetryTrial.Text.Utf8

/-!
# The order of texts by their bytes

Texts are ordered by their characters from left to right. Written as bytes they keep this order: the
bytes of two characters differ at some place, and there the smaller character has the smaller byte.
-/

namespace RetryTrial.Text

theorem ofNat_cons_lt_iff {m n : Nat} (hm : m < 256) (hn : n < 256) {xs ys : List UInt8} :
    UInt8.ofNat m :: xs < UInt8.ofNat n :: ys ↔ m < n ∨ m = n ∧ xs < ys := by
  have hm' : m % 2 ^ 8 = m := Nat.mod_eq_of_lt hm
  have hn' : n % 2 ^ 8 = n := Nat.mod_eq_of_lt hn
  rw [List.cons_lt_cons_iff, UInt8.lt_iff_toNat_lt, ← UInt8.toNat_inj, UInt8.toNat_ofNat',
    UInt8.toNat_ofNat', hm', hn']

theorem utf8EncodeChar_append_lt {c d : Char} (h : c < d) (xs ys : List UInt8) :
    String.utf8EncodeChar c ++ xs < String.utf8EncodeChar d ++ ys := by
  have hlt : c.val.toNat < d.val.toNat := h
  have hbound : d.val.toNat < 0x110000 := by
    rcases d.valid with hlow | ⟨-, hhigh⟩
    · exact Nat.lt_trans hlow (by decide)
    · exact hhigh
  simp only [String.utf8EncodeChar]
  generalize c.val.toNat = m at hlt ⊢
  generalize d.val.toNat = n at hlt hbound ⊢
  have hthird (k : Nat) : k / 4096 = k / 64 / 64 := (Nat.div_div_eq_div_mul k 64 64).symm
  have hfourth (k : Nat) : k / 262144 = k / 64 / 64 / 64 := by
    rw [Nat.div_div_eq_div_mul, Nat.div_div_eq_div_mul]
  simp only [hthird, hfourth]
  split_ifs <;> simp (disch := omega) only [List.cons_append, ofNat_cons_lt_iff] <;> omega

theorem flatMap_utf8EncodeChar_lt {cs ds : List Char} (h : cs < ds) :
    cs.flatMap String.utf8EncodeChar < ds.flatMap String.utf8EncodeChar := by
  induction h with
  | @nil d ds =>
      obtain ⟨x, xs, hd⟩ := List.exists_cons_of_ne_nil (String.utf8EncodeChar_ne_nil (c := d))
      rw [List.flatMap_nil, List.flatMap_cons, hd]
      exact List.nil_lt_cons _ _
  | cons _ ih =>
      rw [List.flatMap_cons, List.flatMap_cons]
      exact List.append_left_lt ih
  | rel hlt =>
      rw [List.flatMap_cons, List.flatMap_cons]
      exact utf8EncodeChar_append_lt hlt _ _

theorem encode_lt_encode {s t : String} (h : s < t) : encode s < encode t :=
  flatMap_utf8EncodeChar_lt h

end RetryTrial.Text
