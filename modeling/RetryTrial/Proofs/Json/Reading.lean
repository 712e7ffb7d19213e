import Mathlib.Data.List.Perm.Basic
import RetryTrial.Proofs.Json.Denotation
import RetryTrial.Proofs.Json.Spelling
import RetryTrial.Proofs.LastMember

/-!
# Reading what a document stands for

A reader takes from the tokens of a document the value that it stands for, and leaves the tokens
behind it. For an object this rests on a step: what has been read after some members is a function
of these members, whatever their order.
-/

namespace RetryTrial.Json
open Document

section Arrays

variable {α : Type} {item : Reading α} {R : α → Document → Prop} {as : List α}
  {ds : List Document}

theorem length_lt_length_itemTokens (ds : List Document) :
    ds.length < (itemTokens ds).length := by
  induction ds with
  | nil => simp [itemTokens]
  | cons d ds ih =>
      simp only [itemTokens, List.length_cons, List.length_append]
      omega

theorem readItems_of_forall₂
    (hitem : ∀ a d rest, R a d → item (d.tokens ++ rest) = .ok (a, rest))
    (h : List.Forall₂ R as ds) {fuel : ℕ} (hfuel : ds.length < fuel) (rest : List Token) :
    readItems item fuel (itemTokens ds ++ rest) = .ok (as, rest) := by
  induction h generalizing fuel with
  | nil =>
      cases fuel with
      | zero => simp at hfuel
      | succ fuel => rfl
  | @cons a d as ds ha h ih =>
      cases fuel with
      | zero => simp at hfuel
      | succ fuel =>
          rw [itemTokens, List.cons_append, List.append_assoc, readItems]
          simp only [hitem a d _ ha, ih (Nat.lt_of_succ_lt_succ hfuel), bind, Except.bind]
          rfl

theorem readList_of_forall₂
    (hitem : ∀ a d rest, R a d → item (d.tokens ++ rest) = .ok (a, rest))
    (h : List.Forall₂ R as ds) (rest : List Token) :
    readList item ((Document.array ds).tokens ++ rest) = .ok (as, rest) := by
  cases h with
  | nil => rfl
  | @cons a d as ds ha h =>
      obtain ⟨t, ts, hd, ht, -⟩ := d.tokens_eq_cons
      have hfuel : ds.length < (itemTokens ds ++ rest).length := by
        rw [List.length_append]
        exact Nat.lt_add_right _ (length_lt_length_itemTokens ds)
      have hopen : readList item (.openBracket :: (d.tokens ++ (itemTokens ds ++ rest))) =
          item (d.tokens ++ (itemTokens ds ++ rest)) >>= fun first =>
            readItems item first.2.length first.2 >>= fun others =>
              pure (first.1 :: others.1, others.2) := by
        rw [hd]
        cases t with
        | closeBracket => exact absurd rfl ht
        | _ => rfl
      rw [Document.tokens, List.cons_append, List.append_assoc, hopen]
      simp only [hitem a d _ ha, readItems_of_forall₂ hitem h hfuel, bind, Except.bind]
      rfl

end Arrays

section Objects

variable {ε σ : Type} {entry : ε → String × Document} {state : List ε → σ}
  {member : String → σ → Reading σ} {all : List ε}

theorem length_lt_length_memberTokens (ms : List (String × Document)) :
    ms.length < (memberTokens ms).length := by
  induction ms with
  | nil => simp [memberTokens]
  | cons m ms ih =>
      simp only [memberTokens, List.length_cons, List.length_append]
      omega

theorem readMembers_of_step
    (hmember : ∀ before e after rest, before ++ e :: after = all →
      member (entry e).1 (state before) (.colon :: ((entry e).2.tokens ++ rest)) =
        .ok (state (before ++ [e]), rest))
    {before after : List ε} (hall : before ++ after = all) {fuel : ℕ}
    (hfuel : after.length < fuel) (rest : List Token) :
    readMembers member fuel (state before) (memberTokens (after.map entry) ++ rest) =
      .ok (state all, rest) := by
  induction after generalizing before fuel with
  | nil =>
      cases fuel with
      | zero => simp at hfuel
      | succ fuel =>
          rw [List.append_nil] at hall
          rw [hall]
          rfl
  | cons e after ih =>
      cases fuel with
      | zero => simp at hfuel
      | succ fuel =>
          have hrest : before ++ [e] ++ after = all := by
            rw [List.append_assoc, List.singleton_append, hall]
          rw [List.map_cons, memberTokens, List.cons_append, List.cons_append, List.cons_append,
            List.append_assoc, readMembers]
          simp only [hmember before e after _ hall, bind, Except.bind]
          exact ih hrest (Nat.lt_of_succ_lt_succ hfuel)

theorem readObject_of_step (entry : ε → String × Document) (state : List ε → σ)
    (member : String → σ → Reading σ) (all : List ε)
    (hmember : ∀ before e after rest, before ++ e :: after = all →
      member (entry e).1 (state before) (.colon :: ((entry e).2.tokens ++ rest)) =
        .ok (state (before ++ [e]), rest)) :
    ∃ body, (Document.object (all.map entry)).tokens = .openBrace :: body ∧
      ∀ rest, readObject member (state []) (body ++ rest) = .ok (state all, rest) := by
  cases all with
  | nil => exact ⟨_, rfl, fun rest => rfl⟩
  | cons e after =>
      refine ⟨_, rfl, fun rest => ?_⟩
      have hfuel : after.length < (memberTokens (after.map entry) ++ rest).length := by
        have hlt := length_lt_length_memberTokens (after.map entry)
        rw [List.length_map] at hlt
        rw [List.length_append]
        exact Nat.lt_add_right _ hlt
      rw [List.cons_append, List.cons_append, List.append_assoc, readObject]
      simp only [hmember [] e after _ rfl, bind, Except.bind]
      exact readMembers_of_step hmember rfl hfuel rest

end Objects

section TextMaps

def insertAll (entries : List (String × String)) : TextMap :=
  entries.foldl (fun map entry => map.insert entry.1 entry.2) ∅

theorem insertAll_of_perm {entries : List (String × String)} {map : TextMap}
    (h : entries.Perm map.toList) : insertAll entries = map := by
  apply Std.ExtTreeMap.ext_getElem?
  intro key
  have hmem : ∀ value, (key, value) ∈ entries ↔ map[key]? = some value := by
    intro value
    rw [h.mem_iff, Std.ExtTreeMap.mem_toList_iff_getElem?_eq_some]
  rw [insertAll, getElem?_foldl_insert, Std.ExtTreeMap.getElem?_empty, Option.or_none]
  cases hfind : entries.reverse.find? (fun entry => decide (entry.1 = key)) with
  | none =>
      cases hkey : map[key]? with
      | none => rfl
      | some value =>
          have hentry := List.mem_reverse.mpr ((hmem value).mpr hkey)
          have hnot := List.find?_eq_none.mp hfind _ hentry
          simp at hnot
  | some entry =>
      obtain ⟨other, value⟩ := entry
      have hother : other = key := by simpa using List.find?_some hfind
      have hentry := List.mem_reverse.mp (List.mem_of_find?_eq_some hfind)
      rw [hother] at hentry
      exact ((hmem value).mp hentry).symm

theorem readTextMap_of_perm {entries : List (String × String)} {map : TextMap}
    (h : entries.Perm map.toList) (rest : List Token) :
    Shape.textMap.read
        ((Document.object (entries.map fun (key, value) => (key, .text value))).tokens ++ rest) =
      .ok (map, rest) := by
  obtain ⟨body, htokens, hread⟩ := readObject_of_step
    (fun (key, value) => (key, .text value)) insertAll readTextMember entries (by
      intro before entry after rest _
      have hinsert : insertAll (before ++ [entry]) =
          (insertAll before).insert entry.1 entry.2 := by
        simp [insertAll]
      rw [hinsert]
      rfl)
  rw [htokens, List.cons_append, Shape.read]
  rw [insertAll_of_perm h] at hread
  exact hread rest

end TextMaps

theorem Shape.read_option_of_ne_null {α : Type} {shape : Shape α} {a : α} {d : Document}
    {rest : List Token} (hd : d ≠ .null) (h : shape.read (d.tokens ++ rest) = .ok (a, rest)) :
    (Shape.option shape).read (d.tokens ++ rest) = .ok (some a, rest) := by
  obtain ⟨t, ts, htokens, -, ht⟩ := d.tokens_eq_cons
  rw [htokens, List.cons_append] at h ⊢
  cases t with
  | null => exact absurd rfl (ht hd)
  | _ => simp only [read, h, bind, Except.bind, pure, Except.pure]

/-- What has been read of the fields after some members. -/
def Fields.slotsOf : Fields β σ → β → List (String × Document) → σ
  | .nil, _, _ => ()
  | .cons name _ rest, (a, b), ms =>
    (if named name ms = [] then none else some a, rest.slotsOf b ms)

theorem Fields.slotsOf_nil : ∀ (fields : Fields β σ) (b : β), fields.slotsOf b [] = fields.noSlots
  | .nil, _ => rfl
  | .cons _ _ rest, (a, b) => by
      rw [slotsOf, noSlots, rest.slotsOf_nil b]
      rfl

theorem Fields.slotsOf_append_unknown {name : String} {d : Document}
    {ms : List (String × Document)} : ∀ (fields : Fields β σ) (b : β),
      fields.field? name = none → fields.slotsOf b (ms ++ [(name, d)]) = fields.slotsOf b ms
  | .nil, _, _ => rfl
  | .cons field _ rest, (a, b), h => by
      have hne : name ≠ field := by
        rintro rfl
        simp [field?] at h
      rw [field?, if_neg (Ne.symm hne)] at h
      rw [slotsOf, slotsOf, rest.slotsOf_append_unknown b h, named_append, named_cons_of_ne hne]
      simp

/-- When all members have been read, the fields have their values. -/
theorem Fields.fill_slotsOf {ms : List (String × Document)} : ∀ (fields : Fields β σ) (b : β),
    fields.Denote b ms → fields.fill (fields.slotsOf b ms) = .ok b
  | .nil, _, _ => rfl
  | .cons name shape rest, (a, b), h => by
      rw [Denote] at h
      obtain ⟨hfield, hrest⟩ := h
      have hslot : ((if named name ms = [] then none else some a) <|> shape.absent?) = some a := by
        rcases hfield with ⟨hnone, habsent⟩ | ⟨d, hone, -⟩
        · simp [hnone, habsent]
        · simp [hone]
      simp only [slotsOf, fill, hslot, rest.fill_slotsOf b hrest]
      rfl

-- The induction is on the shape. A member of a record is read by its field, and by the slots
-- before it and behind it nothing is changed.
mutual

theorem Shape.read_of_denotes (shape : Shape α) (hs : shape.Sound) {a : α} {d : Document}
    (h : shape.Denotes a d) (rest : List Token) :
    shape.read (d.tokens ++ rest) = .ok (a, rest) := by
  cases shape with
  | text | flag =>
      rw [Shape.Denotes] at h
      rw [h]
      rfl
  | int32 =>
      rw [Shape.Denotes] at h
      rw [h]
      simp [Document.tokens, Shape.read, readScalar, int32?_token]
  | int64 =>
      rw [Shape.Denotes] at h
      rw [h]
      simp [Document.tokens, Shape.read, readScalar, int64?_token]
  | uuid =>
      rw [Shape.Denotes] at h
      rw [h]
      simp [Document.tokens, Shape.read, readScalar, Token.uuid?]
  | choice c =>
      rw [Shape.Denotes] at h
      rw [h]
      simp [Document.tokens, Shape.read, readChoice, c.find?_name]
  | option shape =>
      rw [Shape.Sound] at hs
      cases a with
      | none =>
          rw [Shape.Denotes] at h
          rw [h]
          rfl
      | some a =>
          rw [Shape.Denotes] at h
          exact Shape.read_option_of_ne_null (Shape.ne_null_of_denotes hs.1 h)
            (shape.read_of_denotes hs.2 h rest)
  | list shape =>
      rw [Shape.Sound] at hs
      rw [Shape.Denotes] at h
      obtain ⟨ds, rfl, has⟩ := h
      exact readList_of_forall₂ (fun a d rest ha => shape.read_of_denotes hs ha rest) has rest
  | textMap =>
      rw [Shape.Denotes] at h
      obtain ⟨ms, rfl, hperm⟩ := h
      obtain ⟨entries, rfl, hentries⟩ :=
        (congrFun₂ (List.eq_map_comp_perm _) ms a.toList).mpr hperm
      exact readTextMap_of_perm hentries rest
  | record fields make parts make_parts =>
      rw [Shape.Sound] at hs
      rw [Shape.Denotes] at h
      obtain ⟨ms, rfl, hms⟩ := h
      obtain ⟨body, htokens, hread⟩ := readObject_of_step id (fields.slotsOf (parts a))
        (fun name slots ts => fields.readMember name slots ts) ms (by
          rintro before ⟨name, d⟩ after rest rfl
          exact fields.readMember_of_denote hs hms rest)
      rw [List.map_id] at htokens
      rw [htokens, List.cons_append, Shape.read, ← fields.slotsOf_nil (parts a)]
      simp only [hread, fields.fill_slotsOf (parts a) hms, bind, Except.bind, make_parts]
      rfl

theorem Fields.readMember_of_denote (fields : Fields β σ) (hs : fields.Sound) {b : β}
    {before after : List (String × Document)} {name : String} {d : Document}
    (h : fields.Denote b (before ++ (name, d) :: after)) (rest : List Token) :
    fields.readMember name (fields.slotsOf b before) (.colon :: (d.tokens ++ rest)) =
      .ok (fields.slotsOf b (before ++ [(name, d)]), rest) := by
  cases fields with
  | nil => simp [Fields.readMember, readColon, Fields.slotsOf, bind, Except.bind, pure, Except.pure]
  | cons field shape others =>
      obtain ⟨a, b⟩ := b
      rw [Fields.Sound] at hs
      rw [Fields.Denote] at h
      obtain ⟨hunknown, hshape, hothers⟩ := hs
      obtain ⟨hfield, hdenote⟩ := h
      by_cases hname : name = field
      · subst hname
        rw [named_append, named_cons_self, stands_append_cons_iff] at hfield
        obtain ⟨hbefore, -, ha⟩ := hfield
        have hread := shape.read_of_denotes hshape ha rest
        simp [Fields.readMember, Fields.slotsOf, hbefore, readColon, hread, bind, Except.bind,
          pure, Except.pure, others.slotsOf_append_unknown b hunknown]
      · have hread := others.readMember_of_denote hothers hdenote rest
        simp [Fields.readMember, Fields.slotsOf, hname, named_cons_of_ne hname, hread, bind,
          Except.bind, pure, Except.pure]

end

/-- The text of a document is read as the value that the document stands for. -/
theorem Shape.readWhole_of_denotes {shape : Shape α} (hs : shape.Sound) {a : α} {d : Document}
    (h : shape.Denotes a d) : shape.readWhole d.print = .ok a := by
  have hread := shape.read_of_denotes hs h []
  rw [List.append_nil] at hread
  rw [readWhole, tokens_print, hread]

end RetryTrial.Json
