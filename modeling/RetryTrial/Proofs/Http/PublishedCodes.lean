import Mathlib.Data.List.Nodup
import Std.Data.String.ToInt
import RetryTrial.Proofs.Decline.Views
import RetryTrial.Proofs.Http.Requests
import RetryTrial.Proofs.Text.Words

/-!
# Published codes

A request for the published codes may give a flag and a category, each as a text that has blanks
around it and letters of either case. It is refused as bad if the text of the category says the name
of none. Otherwise the answer displays the view of the table for them. These views split the table:
each of its codes is in exactly one of them by flag and category.
-/

namespace RetryTrial
open Json Text

namespace Category

variable {c : Category} {text : String}

theorem not_isBlank_of_mem_name (c : Category) : ∀ d ∈ c.name.toList, isBlank d = false := by
  apply any_isBlank_eq_false_iff.mp
  cases c <;> decide

theorem eq_of_map_toLower_name {a b : Category}
    (h : a.name.toList.map Char.toLower = b.name.toList.map Char.toLower) : a = b := by
  have hnodup : (all.map fun c => c.name.toList.map Char.toLower).Nodup := by decide +kernel
  exact List.inj_on_of_nodup_map hnodup (mem_all a) (mem_all b) h

theorem ofName?_eq_some_iff : ofName? text = some c ↔ Says text c.name := by
  rw [← sameIgnoringCase_trim_iff (not_isBlank_of_mem_name c)]
  constructor
  · intro h
    exact List.find?_some (p := fun c : Category =>
      sameIgnoringCase c.name.toList (trim text.toList)) h
  · intro h
    have hsome : (ofName? text).isSome = true := List.find?_isSome.mpr ⟨c, mem_all c, h⟩
    obtain ⟨found, hfound⟩ := Option.isSome_iff_exists.mp hsome
    have hsame := List.find?_some (p := fun c : Category =>
      sameIgnoringCase c.name.toList (trim text.toList)) hfound
    rw [sameIgnoringCase_iff] at h hsame
    rw [hfound, eq_of_map_toLower_name (hsame.trans h.symm)]

theorem ofName?_eq_none_iff : ofName? text = none ↔ ∀ c : Category, ¬ Says text c.name := by
  simp only [Option.eq_none_iff_forall_ne_some, ne_eq, ofName?_eq_some_iff]

end Category

namespace Http

/-- The object's members have different names, and are these. -/
def Lists (d : Document) (P : String → Document → Prop) : Prop :=
  ∃ members, d = .object members ∧ (members.map Prod.fst).Nodup ∧
    ∀ name item, (name, item) ∈ members ↔ P name item

/-- The object has a member for each plugin of the view, which lists the records under their codes
that the view shows there. -/
def Displays (d : Document) (view : Std.ExtTreeMap String CodeTable) : Prop :=
  ∃ members, d = .object members ∧ (members.map Prod.fst).Nodup ∧
    (∀ plugin, plugin ∈ members.map Prod.fst ↔ plugin ∈ view) ∧
    ∀ plugin item, (plugin, item) ∈ members → Lists item fun name entry =>
      ∃ code decline, Table.Shows view plugin code decline ∧ name = code.toInt.repr ∧
        entry = Shape.decline.write decline

theorem lists_document (codes : CodeTable) : Lists codes.document fun name entry =>
    ∃ (code : Int32) (d : Decline), codes[code]? = some d ∧ name = code.toInt.repr ∧
      entry = Shape.decline.write d := by
  refine ⟨_, rfl, ?_, ?_⟩
  · have hkeys : codes.toList.map (fun p => p.1.toInt.repr) =
        codes.keys.map fun code => code.toInt.repr := by
      rw [← Std.ExtTreeMap.map_fst_toList_eq_keys, List.map_map]
      rfl
    rw [List.map_map]
    change (codes.toList.map fun p => p.1.toInt.repr).Nodup
    rw [hkeys]
    exact Std.ExtTreeMap.nodup_keys.map fun a b h => Int32.toInt_inj.mp (Int.repr_injective h)
  · intro name entry
    simp only [List.mem_map, Prod.exists, Prod.mk.injEq,
      Std.ExtTreeMap.mem_toList_iff_getElem?_eq_some]
    constructor
    · rintro ⟨code, d, hd, rfl, rfl⟩
      exact ⟨code, d, hd, rfl, rfl⟩
    · rintro ⟨code, d, hd, rfl, rfl⟩
      exact ⟨code, d, hd, rfl, rfl⟩

theorem displays_tableDocument (view : Std.ExtTreeMap String CodeTable) :
    Displays (tableDocument view) view := by
  have hnames : (view.toList.map fun p => (p.1, p.2.document)).map Prod.fst = view.keys := by
    rw [← Std.ExtTreeMap.map_fst_toList_eq_keys, List.map_map]
    rfl
  refine ⟨_, rfl, ?_, ?_, ?_⟩
  · rw [hnames]
    exact Std.ExtTreeMap.nodup_keys
  · intro plugin
    rw [hnames, Std.ExtTreeMap.mem_keys]
  · intro plugin item hmem
    obtain ⟨⟨_, codes⟩, hcodes, heq⟩ := List.mem_map.mp hmem
    obtain ⟨rfl, rfl⟩ := Prod.mk.inj heq
    have hview := Std.ExtTreeMap.mem_toList_iff_getElem?_eq_some.mp hcodes
    simpa [Table.Shows, hview] using lists_document codes

/-- The query gives this text under the name and no other, or nothing. -/
def Request.Gives (r : Request) (name : String) (text : Option String) : Prop :=
  r.form.filter (·.1 = name) = (text.map fun t => (name, t)).toList

instance (r : Request) (name : String) (text : Option String) : Decidable (r.Gives name text) :=
  inferInstanceAs (Decidable (_ = _))

/-- A request for the published codes with the texts of a flag and a category, if they are given. -/
structure Request.AsksCodes (r : Request) (flag category : Option String) : Prop where
  method_eq : r.method = "GET"
  path : r.leadsTo = .declineCodes
  flag : r.Gives "retryable" flag
  category : r.Gives "category" category

variable {r : Request} {flag category : Option String} {setup : Setup} {table : Table}

theorem Request.Gives.parameter?_eq {name : String} (h : r.Gives name flag) :
    r.parameter? name = .ok flag := by
  rw [parameter?, show r.form.filter (·.1 = name) = _ from h]
  cases flag with
  | none => rfl
  | some text => rfl

theorem Request.AsksCodes.call_eq (h : r.AsksCodes flag category) (setup : Setup) :
    r.call setup = .ok (.declineCodes flag category) := by
  have hread : r.isRead = true := by simp [isRead, h.method_eq]
  rw [call, h.path]
  simp only [hread, h.flag.parameter?_eq, h.category.parameter?_eq]
  rfl

theorem Request.AsksCodes.response_eq (h : r.AsksCodes flag category) (setup : Setup) (w : World)
    (now : ℕ) :
    (respond setup w now r).value.1 = declineCodes setup.classifier.table flag category := by
  have hget : r.method ≠ "HEAD" := by
    rw [h.method_eq]
    decide
  rw [value_respond_of_call (h.call_eq setup) hget]
  rfl

theorem isTrue_iff : isTrue flag = true ↔ ∃ text, flag = some text ∧ Says text "true" := by
  have hword : ∀ c ∈ "true".toList, isBlank c = false :=
    any_isBlank_eq_false_iff.mp (by decide)
  cases flag with
  | none => simp [isTrue]
  | some text =>
      simp only [isTrue, Option.any_some, Option.some.injEq, exists_eq_left']
      rw [← sameIgnoringCase_trim_iff hword, sameIgnoringCase_iff, sameIgnoringCase_iff, eq_comm]

theorem status_declineCodes_eq_400_iff : (declineCodes table flag category).status = 400 ↔
    ∃ text, category = some text ∧ ∀ c : Category, ¬ Says text c.name := by
  cases category with
  | none => simp [declineCodes, Response.ok]
  | some text =>
      simp only [declineCodes, Option.some.injEq, exists_eq_left', ← Category.ofName?_eq_none_iff]
      cases Category.ofName? text with
      | none => simp [Response.error]
      | some c => simp [Response.ok]

/-- The views of a table by flag and category split its codes, the views by flag alone unite those
of all categories, and all views have the routed plugins for keys. A request for the published codes
is refused as bad exactly if its category is no name of one, and else the answer displays the view
for its category and flag. -/
theorem published_codes_partitioned (registrations : List Registration) :
    let table := (Table.build registrations).value
    (∀ plugin code d, table.lookup? plugin code = some d → ∀ retryable c e,
      Table.Shows (table.filtered retryable (some c)) plugin code e ↔
        e = d ∧ retryable = d.retryable ∧ c = d.category) ∧
    (∀ retryable plugin code d, Table.Shows (table.filtered retryable none) plugin code d ↔
      ∃ c, Table.Shows (table.filtered retryable (some c)) plugin code d) ∧
    (∀ retryable category plugin, plugin ∈ table.filtered retryable category ↔
      ∃ name, table.processorFor? plugin = some name) ∧
    (∀ retryable category plugin code d,
      Table.Shows (table.filtered retryable category) plugin code d →
        table.lookup? plugin code = some d) ∧
    ∀ (setup : Setup) (w : World) (now : ℕ) (r : Request) (flag category : Option String),
      setup.classifier.table = table → r.AsksCodes flag category →
        let response := (respond setup w now r).value.1
        (response.status = 400 ↔
          ∃ text, category = some text ∧ ∀ c : Category, ¬ Says text c.name) ∧
        ∀ retryable : Bool, (retryable = true ↔ ∃ text, flag = some text ∧ Says text "true") →
          (category = none →
            ∃ d, response = .ok d ∧ Displays d (table.filtered retryable none)) ∧
          ∀ text c, category = some text → Says text c.name →
            ∃ d, response = .ok d ∧ Displays d (table.filtered retryable (some c)) := by
  intro table
  refine ⟨?_, ?_, ?_, ?_, ?_⟩
  · intro plugin code d h retryable c e
    exact Table.shows_filtered_of_lookup? h retryable c e
  · intro retryable plugin code d
    exact Table.shows_filtered_none_iff
  · intro retryable category plugin
    exact Table.mem_filtered_iff
  · intro retryable category plugin code d h
    exact (Table.shows_filtered_iff.mp h).1
  · intro setup w now r flag category htable hasks
    rw [hasks.response_eq, htable]
    refine ⟨status_declineCodes_eq_400_iff, ?_⟩
    intro retryable hflag
    have hretryable : isTrue flag = retryable := by
      rw [Bool.eq_iff_iff, isTrue_iff, hflag]
    constructor
    · rintro rfl
      refine ⟨_, rfl, ?_⟩
      rw [hretryable]
      exact displays_tableDocument _
    · rintro text c rfl hsays
      have hname : Category.ofName? text = some c := Category.ofName?_eq_some_iff.mpr hsays
      refine ⟨tableDocument (table.filtered (isTrue flag) (some c)), ?_, ?_⟩
      · simp only [declineCodes, hname]
      · rw [hretryable]
        exact displays_tableDocument _

/-- A plugin with two codes and one with none. -/
def twoPlugins : List Registration :=
  [.route "acme" "Acme", .route "idle" "Idle", .processor "Idle" [],
    .processor "Acme"
      [⟨5, "Expired", .expiredCard, false⟩, ⟨7, "No funds", .insufficientFunds, true⟩]]

def publishing : Setup :=
  ⟨⟨(Table.build twoPlugins).value, .standard⟩, .fixed 0, .fixed, "admin", "internal"⟩

def untouched : World :=
  ⟨.fresh, ⟨.memory .empty .empty .empty, none⟩, .new 1000 5, .new 5, none⟩

def askExpired : Request :=
  ⟨"GET", "/decline-codes?category=+Expired_card%C2%A0&retryable=no", [], []⟩

def askMisnamed : Request := ⟨"GET", "/decline-codes?category=expired+card", [], []⟩

/-- The codes of expired cards are displayed, the one of the first plugin among them, and a category
that is no name is refused. -/
theorem expired_codes_displayed :
    let view := (Table.build twoPlugins).value.filtered false (some .expiredCard)
    (∃ d, (respond publishing untouched 0 askExpired).value.1 = .ok d ∧ Displays d view) ∧
    Table.Shows view "acme" 5 ⟨"Acme", 5, "Expired", .expiredCard, false⟩ ∧
    (respond publishing untouched 0 askMisnamed).value.1.status = 400 := by
  intro view
  obtain ⟨hsplit, -, -, -, hanswer⟩ := published_codes_partitioned twoPlugins
  have hexpired : askExpired.AsksCodes (some "no") (some " Expired_card\u00a0") :=
    ⟨rfl, by decide, by decide, by decide⟩
  have hmisnamed : askMisnamed.AsksCodes none (some "expired card") :=
    ⟨rfl, by decide, by decide, by decide⟩
  have hsays : Says " Expired_card\u00a0" Category.expiredCard.name :=
    ⟨[' '], "Expired_card".toList, ['\u00a0'], by decide, by decide,
      List.all_eq_true.mp (by decide), List.all_eq_true.mp (by decide)⟩
  have hflag : (false = true) ↔ ∃ text, some "no" = some text ∧ Says text "true" := by
    rw [← isTrue_iff]
    decide
  have hnone : ∀ c : Category, ¬ Says "expired card" c.name := by
    rw [← Category.ofName?_eq_none_iff]
    decide
  have hlisted : (Table.build twoPlugins).value.lookup? "acme" 5 =
      some ⟨"Acme", 5, "Expired", .expiredCard, false⟩ := by decide
  refine ⟨?_, ?_, ?_⟩
  · have hviews := (hanswer publishing untouched 0 askExpired _ _ rfl hexpired).2 false hflag
    exact hviews.2 _ _ rfl hsays
  · exact (hsplit "acme" 5 _ hlisted false .expiredCard _).mpr ⟨rfl, rfl, rfl⟩
  · exact (hanswer publishing untouched 0 askMisnamed _ _ rfl hmisnamed).1.mpr ⟨_, rfl, hnone⟩

end Http

end RetryTrial
