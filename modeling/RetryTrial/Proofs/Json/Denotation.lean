import Mathlib.Data.List.Forall2
import Mathlib.Data.Int.Notation
import RetryTrial.Json.Shape
import RetryTrial.Proofs.Json.Skipping

/-!
# What a document stands for

`Shape.Denotes` says which documents stand for a value: the members of a record may have any order,
members with unknown names may stand between them, and an optional field may be missing. What stands
for a scalar is read as this scalar, an integer of up to 64 bits from its digits.
-/

namespace RetryTrial.Json
open Document

def named (name : String) (ms : List (String × Document)) : List Document :=
  ms.filterMap fun m => if m.1 = name then some m.2 else none

section Named

variable {name other : String} {d : Document} {ms ms' : List (String × Document)}

@[simp] theorem named_nil : named name [] = [] := rfl

@[simp] theorem named_append : named name (ms ++ ms') = named name ms ++ named name ms' :=
  List.filterMap_append

@[simp] theorem named_cons_self : named name ((name, d) :: ms) = d :: named name ms := by
  simp [named]

theorem named_cons_of_ne (h : other ≠ name) : named name ((other, d) :: ms) = named name ms := by
  simp [named, h]

end Named

def Fields.field? : Fields β σ → String → Option ((α : Type) × Shape α)
  | .nil, _ => none
  | .cons field shape rest, name => if field = name then some ⟨_, shape⟩ else rest.field? name

mutual

/-- The fields of every record have different names, and no option stands in an option. -/
def Shape.Sound : Shape α → Prop
  | .option shape => shape.absent? = none ∧ shape.Sound
  | .list shape => shape.Sound
  | .record fields _ _ _ => fields.Sound
  | .text | .flag | .int32 | .int64 | .uuid | .choice _ | .textMap => True

def Fields.Sound : Fields β σ → Prop
  | .nil => True
  | .cons name shape rest => rest.field? name = none ∧ shape.Sound ∧ rest.Sound

end

/-- One member has the value of a field, or none has and the field may be missing. -/
def Stands {α : Type} (denotes : α → Document → Prop) (absent? : Option α) (a : α)
    (values : List Document) : Prop :=
  values = [] ∧ absent? = some a ∨ ∃ d, values = [d] ∧ denotes a d

section Stands

variable {α : Type} {denotes : α → Document → Prop} {absent? : Option α} {a : α} {d : Document}
  {before after values values' : List Document}

theorem Stands.perm (h : Stands denotes absent? a values) (hperm : values.Perm values') :
    Stands denotes absent? a values' := by
  rcases h with ⟨rfl, habsent⟩ | ⟨d, rfl, hd⟩
  · exact .inl ⟨List.nil_perm.mp hperm, habsent⟩
  · exact .inr ⟨d, List.singleton_perm.mp hperm |>.symm, hd⟩

theorem stands_append_cons_iff :
    Stands denotes absent? a (before ++ d :: after) ↔ before = [] ∧ after = [] ∧ denotes a d := by
  constructor
  · rintro (⟨hnil, -⟩ | ⟨d', hone, hd⟩)
    · simp at hnil
    · obtain ⟨rfl, rfl, rfl⟩ : before = [] ∧ d = d' ∧ after = [] := by
        simpa [List.append_eq_singleton_iff] using hone
      exact ⟨rfl, rfl, hd⟩
  · rintro ⟨rfl, rfl, hd⟩
    exact .inr ⟨d, rfl, hd⟩

end Stands

mutual

/-- The document stands for the value. -/
def Shape.Denotes : Shape α → α → Document → Prop
  | .text, s, d => d = .text s
  | .flag, b, d => d = .flag b
  | .int32, i, d => d = .integer i.toInt
  | .int64, i, d => d = .integer i.toInt
  | .uuid, u, d => d = .text u.toText
  | .choice c, a, d => d = .text (c.name a)
  | .option shape, a, d =>
    match a with
    | none => d = .null
    | some a => shape.Denotes a d
  | .list shape, as, d => ∃ ds, d = .array ds ∧ List.Forall₂ shape.Denotes as ds
  | .textMap, map, d =>
    ∃ ms, d = .object ms ∧ ms.Perm (map.toList.map fun (key, value) => (key, .text value))
  | .record fields _ parts _, a, d => ∃ ms, d = .object ms ∧ fields.Denote (parts a) ms

/-- Every field stands among the members, and any other members stand there too. -/
def Fields.Denote : Fields β σ → β → List (String × Document) → Prop
  | .nil, _, _ => True
  | .cons name shape rest, (a, b), ms =>
    Stands shape.Denotes shape.absent? a (named name ms) ∧ rest.Denote b ms

end

theorem Shape.denotes_record_object {α β σ : Type} {fields : Fields β σ} {make : β → α}
    {parts : α → β} {make_parts : ∀ a, make (parts a) = a} {a : α}
    {ms : List (String × Document)} :
    (Shape.record fields make parts make_parts).Denotes a (.object ms) ↔
      fields.Denote (parts a) ms := by
  simp [Denotes]

theorem Shape.ne_null_of_denotes {shape : Shape α} {a : α} {d : Document}
    (habsent : shape.absent? = none) (h : shape.Denotes a d) : d ≠ .null := by
  rintro rfl
  cases shape with
  | option shape => cases habsent
  | _ => simp [Shape.Denotes] at h

section Scalars

theorem number_decimalDigits (n : ℕ) : Literal.number (decimalDigits n) = n := by
  rw [Literal.number, decimalDigits, List.foldl_map]
  exact Nat.ofDigitChars_ten_toDigits

theorem token_integerLiteral {i : ℤ} (hmin : Int64.minValue.toInt ≤ i)
    (hmax : i ≤ Int64.maxValue.toInt) : (integerLiteral i).token = .integer i := by
  have hlow : -9223372036854775808 ≤ i := hmin
  have hhigh : i ≤ 9223372036854775807 := hmax
  have hread : (integerLiteral i).integer? = some i := by
    simp only [Literal.integer?, integerLiteral, number_decimalDigits]
    rw [if_neg (by simp)]
    by_cases hi : i < 0
    · have hrange : 0 < i.natAbs ∧ i.natAbs ≤ UInt64.size / 2 := by
        simp only [UInt64.size]
        omega
      rw [if_pos (decide_eq_true hi), if_pos hrange, Option.some_inj]
      omega
    · have hrange : i.natAbs < UInt64.size := by
        simp only [UInt64.size]
        omega
      rw [if_neg (by simpa using hi), if_pos hrange, Option.some_inj]
      omega
  simp [Literal.token, hread]

theorem int64?_token (i : Int64) : (integerLiteral i.toInt).token.int64? = some i := by
  have hrange := And.intro i.minValue_le_toInt i.toInt_le
  rw [token_integerLiteral hrange.1 hrange.2, Token.int64?, if_pos hrange, Int64.ofInt_toInt]

theorem int32?_token (i : Int32) : (integerLiteral i.toInt).token.int32? = some i := by
  have hrange := And.intro i.minValue_le_toInt i.toInt_le
  have hmin : Int64.minValue.toInt ≤ i.toInt := Int.le_trans (by decide) hrange.1
  have hmax : i.toInt ≤ Int64.maxValue.toInt := Int.le_trans hrange.2 (by decide)
  rw [token_integerLiteral hmin hmax, Token.int32?, if_pos hrange, Int32.ofInt_toInt]

theorem Choice.find?_name {α : Type} (c : Choice α) (a : α) : c.find? (c.name a) = some a := by
  unfold Choice.find?
  cases h : c.values.find? (c.name · == c.name a) with
  | none => simpa using List.find?_eq_none.mp h a (c.mem_values a)
  | some b => rw [c.name_injective b a (by simpa using List.find?_some h)]

end Scalars

end RetryTrial.Json
