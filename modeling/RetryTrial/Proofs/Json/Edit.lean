import Mathlib.Logic.Relation
import RetryTrial.Proofs.Json.Denotation

/-!
# Documents that stand for the same value

What is written for a value stands for it. An `Edit` changes one place of a document: it reorders
the members of a record, adds a member whose name is no field, or removes an optional field that is
null, in the record itself or in one that stands somewhere within. Edits keep what a document stands
for, one as well as any number of them.
-/

namespace RetryTrial.Json

/-- A change at one place of a document. -/
inductive Edit : {α : Type} → Shape α → Document → Document → Prop
  | permute {α β σ : Type} {fields : Fields β σ} {make : β → α} {parts : α → β}
      {make_parts : ∀ a, make (parts a) = a} {ms ms' : List (String × Document)}
      (perm : ms.Perm ms') :
      Edit (.record fields make parts make_parts) (.object ms) (.object ms')
  | add {α β σ : Type} {fields : Fields β σ} {make : β → α} {parts : α → β}
      {make_parts : ∀ a, make (parts a) = a} (before after : List (String × Document))
      (name : String) (d : Document) (unknown : fields.field? name = none) :
      Edit (.record fields make parts make_parts) (.object (before ++ after))
        (.object (before ++ (name, d) :: after))
  | drop {α β σ γ : Type} {fields : Fields β σ} {make : β → α} {parts : α → β}
      {make_parts : ∀ a, make (parts a) = a} (before after : List (String × Document))
      (name : String) {shape : Shape γ} (optional : fields.field? name = some ⟨_, .option shape⟩) :
      Edit (.record fields make parts make_parts) (.object (before ++ (name, .null) :: after))
        (.object (before ++ after))
  | member {α β σ γ : Type} {fields : Fields β σ} {make : β → α} {parts : α → β}
      {make_parts : ∀ a, make (parts a) = a} (before after : List (String × Document))
      (name : String) {shape : Shape γ} {d d' : Document}
      (field : fields.field? name = some ⟨_, shape⟩) (edit : Edit shape d d') :
      Edit (.record fields make parts make_parts) (.object (before ++ (name, d) :: after))
        (.object (before ++ (name, d') :: after))
  | option {α : Type} {shape : Shape α} {d d' : Document} (edit : Edit shape d d') :
      Edit (.option shape) d d'
  | item {α : Type} {shape : Shape α} (before after : List Document) {d d' : Document}
      (edit : Edit shape d d') :
      Edit (.list shape) (.array (before ++ d :: after)) (.array (before ++ d' :: after))
  | entries {ms ms' : List (String × Document)} (perm : ms.Perm ms') :
      Edit .textMap (.object ms) (.object ms')

theorem Edit.ne_null {α : Type} {shape : Shape α} {d d' : Document} (edit : Edit shape d d') :
    d ≠ .null := by
  induction edit with
  | option edit ih => exact ih
  | _ => simp

theorem Fields.Sound.field {name : String} {α : Type} {shape : Shape α} :
    ∀ {fields : Fields β σ}, fields.Sound → fields.field? name = some ⟨α, shape⟩ → shape.Sound
  | .nil, _, h => by cases h
  | .cons field other rest, hs, h => by
      rw [Sound] at hs
      rw [field?] at h
      by_cases hname : field = name
      · rw [if_pos hname] at h
        cases h
        exact hs.2.1
      · rw [if_neg hname] at h
        exact hs.2.2.field h

theorem Fields.denote_of_stands {ms ms' : List (String × Document)} :
    ∀ {fields : Fields β σ} {b : β}, fields.Sound →
      (∀ name α (shape : Shape α) a, fields.field? name = some ⟨α, shape⟩ →
        Stands shape.Denotes shape.absent? a (named name ms) →
          Stands shape.Denotes shape.absent? a (named name ms')) →
      fields.Denote b ms → fields.Denote b ms'
  | .nil, _, _, _, _ => trivial
  | .cons name shape rest, (a, b), hs, hstands, h => by
      rw [Sound] at hs
      rw [Denote] at h ⊢
      obtain ⟨hunknown, -, hrest⟩ := hs
      refine ⟨hstands name _ shape a (if_pos rfl) h.1, denote_of_stands hrest ?_ h.2⟩
      intro other γ shape' c hother
      have hne : name ≠ other := by
        rintro rfl
        rw [hunknown] at hother
        cases hother
      exact hstands other γ shape' c (by rw [field?, if_neg hne, hother])

section Members

variable {β σ : Type} {fields : Fields β σ} {b : β} {name : String} {d d' : Document}
  {before after ms ms' : List (String × Document)}

theorem Fields.Denote.perm (h : fields.Denote b ms) (hs : fields.Sound) (hperm : ms.Perm ms') :
    fields.Denote b ms' :=
  denote_of_stands hs (fun _ _ _ _ _ hstands => hstands.perm (hperm.filterMap _)) h

theorem Fields.Denote.add (h : fields.Denote b (before ++ after)) (hs : fields.Sound)
    (hunknown : fields.field? name = none) :
    fields.Denote b (before ++ (name, d) :: after) := by
  refine denote_of_stands hs (fun other γ shape a hfield hstands => ?_) h
  have hne : name ≠ other := by
    rintro rfl
    rw [hunknown] at hfield
    cases hfield
  rwa [named_append, named_cons_of_ne hne, ← named_append]

theorem Fields.Denote.replace {γ : Type} {shape : Shape γ}
    (h : fields.Denote b (before ++ (name, d) :: after)) (replacement : List (String × Document))
    (hs : fields.Sound)
    (hfield : fields.field? name = some ⟨_, shape⟩)
    (hreplacement : ∀ other ≠ name, named other replacement = [])
    (hstands : ∀ a, shape.Denotes a d →
      Stands shape.Denotes shape.absent? a (named name replacement)) :
    fields.Denote b (before ++ replacement ++ after) := by
  refine denote_of_stands hs (fun other δ shape' a hother hold => ?_) h
  by_cases hname : other = name
  · subst hname
    rw [hfield] at hother
    cases hother
    rw [named_append, named_cons_self, stands_append_cons_iff] at hold
    obtain ⟨hbefore, hafter, ha⟩ := hold
    rw [named_append, named_append, hbefore, hafter, List.nil_append, List.append_nil]
    exact hstands a ha
  · rw [named_append, named_cons_of_ne (Ne.symm hname)] at hold
    rwa [named_append, named_append, hreplacement other hname, List.append_nil]

end Members

theorem Shape.denotes_option_null {α : Type} {shape : Shape α} {a : Option α}
    (hs : (Shape.option shape).Sound) (h : (Shape.option shape).Denotes a .null) : a = none := by
  rw [Sound] at hs
  cases a with
  | none => rfl
  | some a =>
      rw [Denotes] at h
      exact absurd rfl (ne_null_of_denotes hs.1 h)

theorem forall₂_replace {α : Type} {R : α → Document → Prop} {d d' : Document}
    {before after : List Document} {as : List α} (hR : ∀ a, R a d → R a d')
    (h : List.Forall₂ R as (before ++ d :: after)) :
    List.Forall₂ R as (before ++ d' :: after) := by
  induction before generalizing as with
  | nil =>
      cases h with
      | cons ha hafter => exact .cons (hR _ ha) hafter
  | cons e before ih =>
      cases h with
      | cons ha hrest => exact .cons ha (ih hrest)

/-- A document that has been edited at one place stands for the same values. -/
theorem Edit.denotes {α : Type} {shape : Shape α} {d d' : Document} (edit : Edit shape d d')
    (hs : shape.Sound) {a : α} (h : shape.Denotes a d) : shape.Denotes a d' := by
  induction edit with
  | permute perm =>
      rw [Shape.denotes_record_object] at h ⊢
      rw [Shape.Sound] at hs
      exact h.perm hs perm
  | add before after name d unknown =>
      rw [Shape.denotes_record_object] at h ⊢
      rw [Shape.Sound] at hs
      exact h.add hs unknown
  | drop before after name optional =>
      rw [Shape.denotes_record_object] at h ⊢
      rw [Shape.Sound] at hs
      have hdrop := h.replace [] hs optional (fun _ _ => rfl) fun a ha =>
        .inl ⟨rfl, by rw [Shape.denotes_option_null (hs.field optional) ha]; rfl⟩
      rwa [List.append_nil] at hdrop
  | @member _ _ _ _ _ _ _ _ before after name shape d d' field edit ih =>
      rw [Shape.denotes_record_object] at h ⊢
      rw [Shape.Sound] at hs
      have hreplace := h.replace [(name, d')] hs field
        (fun other hother => named_cons_of_ne hother.symm) fun a ha =>
        .inr ⟨d', named_cons_self, ih (hs.field field) ha⟩
      rwa [List.append_assoc, List.singleton_append] at hreplace
  | option edit ih =>
      rw [Shape.Sound] at hs
      cases a with
      | none =>
          rw [Shape.Denotes] at h
          exact absurd h edit.ne_null
      | some a =>
          rw [Shape.Denotes] at h ⊢
          exact ih hs.2 h
  | item before after edit ih =>
      rw [Shape.Sound] at hs
      rw [Shape.Denotes] at h ⊢
      obtain ⟨ds, hds, h⟩ := h
      cases hds
      exact ⟨_, rfl, forall₂_replace (fun a ha => ih hs ha) h⟩
  | entries perm =>
      rw [Shape.Denotes] at h ⊢
      obtain ⟨ms, hms, h⟩ := h
      cases hms
      exact ⟨_, rfl, perm.symm.trans h⟩

/-- Any number of edits keeps what a document stands for. -/
theorem Shape.denotes_of_edits {α : Type} {shape : Shape α} (hs : shape.Sound) {a : α}
    {d d' : Document} (edits : Relation.ReflTransGen (Edit shape) d d') (h : shape.Denotes a d) :
    shape.Denotes a d' := by
  induction edits with
  | refl => exact h
  | tail _ edit ih => exact edit.denotes hs ih

theorem Fields.named_writeMembers {name : String} :
    ∀ (fields : Fields β σ) (b : β), fields.field? name = none →
      named name (fields.writeMembers b) = []
  | .nil, _, _ => rfl
  | .cons field shape rest, (a, b), h => by
      have hne : field ≠ name := by
        rintro rfl
        simp [field?] at h
      rw [field?, if_neg hne] at h
      rw [writeMembers, named_cons_of_ne hne, rest.named_writeMembers b h]

-- The induction is on the shape: what is written for a field stands behind the fields before it.
mutual

theorem Shape.denotes_write (shape : Shape α) (hs : shape.Sound) (a : α) :
    shape.Denotes a (shape.write a) := by
  cases shape with
  | text | flag | int32 | int64 | uuid | choice c =>
      rw [Shape.Denotes, Shape.write]
  | option shape =>
      rw [Shape.Sound] at hs
      cases a with
      | none =>
          rw [Shape.Denotes, Shape.write]
      | some a =>
          rw [Shape.Denotes, Shape.write]
          exact shape.denotes_write hs.2 a
  | list shape =>
      rw [Shape.Sound] at hs
      rw [Shape.Denotes, Shape.write]
      refine ⟨_, rfl, ?_⟩
      rw [List.forall₂_map_right_iff, List.forall₂_same]
      exact fun a _ => shape.denotes_write hs a
  | textMap =>
      rw [Shape.Denotes, Shape.write]
      exact ⟨_, rfl, .refl _⟩
  | record fields make parts make_parts =>
      rw [Shape.Sound] at hs
      rw [Shape.Denotes, Shape.write]
      exact ⟨_, rfl, fields.denote_writeMembers hs (parts a)⟩

theorem Fields.denote_writeMembers (fields : Fields β σ) (hs : fields.Sound) (b : β) :
    fields.Denote b (fields.writeMembers b) := by
  cases fields with
  | nil => trivial
  | cons name shape rest =>
      obtain ⟨a, b⟩ := b
      rw [Fields.Sound] at hs
      rw [Fields.Denote, Fields.writeMembers]
      obtain ⟨hunknown, hshape, hrest⟩ := hs
      constructor
      · rw [named_cons_self, rest.named_writeMembers b hunknown]
        exact .inr ⟨_, rfl, shape.denotes_write hshape a⟩
      · have hothers : rest.Denote b ([] ++ rest.writeMembers b) :=
          rest.denote_writeMembers hrest b
        exact hothers.add hrest hunknown

end

end RetryTrial.Json
