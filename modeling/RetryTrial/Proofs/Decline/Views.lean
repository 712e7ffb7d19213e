import RetryTrial.Decline.Table

/-!
# Views of a decline table

A view shows the codes of a table that have a retryable flag and, if one is given, a category. Every
view has the routed plugins for its keys, those without such codes among them. Each code stands in
exactly one of the views by flag and category, with its record as it is in the table.
-/

namespace RetryTrial.Table

def Shows (view : Std.ExtTreeMap String CodeTable) (plugin : String) (code : Int32) (d : Decline) :
    Prop :=
  ∃ codes, view[plugin]? = some codes ∧ codes[code]? = some d

variable {table : Table} {plugin : String} {code : Int32} {d : Decline} {retryable : Bool}
  {category : Option Category}

theorem getElem?_filtered (table : Table) (retryable : Bool) (category : Option Category)
    (plugin : String) :
    (table.filtered retryable category)[plugin]? = (table.codesFor? plugin).map fun codes =>
      codes.filter fun _ d => d.retryable == retryable &&
        category.all fun c => decide (d.category = c) := by
  rw [filtered, Std.ExtTreeMap.getElem?_map, codesFor?, Option.map_map]
  rfl

theorem shows_filtered_iff : Shows (table.filtered retryable category) plugin code d ↔
    table.lookup? plugin code = some d ∧ d.retryable = retryable ∧
      ∀ c ∈ category, d.category = c := by
  rw [Shows, getElem?_filtered, lookup?]
  cases hcodes : table.codesFor? plugin with
  | none => simp
  | some codes =>
      have hkept : (d.retryable == retryable && category.all fun c => decide (d.category = c)) =
          true ↔ d.retryable = retryable ∧ ∀ c ∈ category, d.category = c := by
        cases category <;> simp
      rw [Option.bind_some, Option.map_some, ← hkept]
      simp only [Option.some.injEq, exists_eq_left', Std.ExtTreeMap.getElem?_filter',
        Option.filter_eq_some_iff]

theorem mem_filtered_iff : plugin ∈ table.filtered retryable category ↔
    ∃ name, table.processorFor? plugin = some name := by
  rw [filtered, Std.ExtTreeMap.mem_map, Std.ExtTreeMap.mem_iff_isSome_getElem?, processorFor?,
    ← Option.isSome_iff_exists, Option.isSome_map]

theorem shows_filtered_of_lookup? (h : table.lookup? plugin code = some d) (retryable : Bool)
    (c : Category) (e : Decline) :
    Shows (table.filtered retryable (some c)) plugin code e ↔
      e = d ∧ retryable = d.retryable ∧ c = d.category := by
  rw [shows_filtered_iff, h]
  simp only [Option.some.injEq, Option.mem_def, forall_eq']
  constructor
  · rintro ⟨rfl, hr, hc⟩
    exact ⟨rfl, hr.symm, hc.symm⟩
  · rintro ⟨rfl, hr, hc⟩
    exact ⟨rfl, hr.symm, hc.symm⟩

theorem shows_filtered_none_iff : Shows (table.filtered retryable none) plugin code d ↔
    ∃ c, Shows (table.filtered retryable (some c)) plugin code d := by
  simp only [shows_filtered_iff]
  constructor
  · rintro ⟨h, hr, -⟩
    exact ⟨d.category, h, hr, fun c hc => Option.some.inj hc⟩
  · rintro ⟨c, h, hr, -⟩
    exact ⟨h, hr, fun _ hnone => nomatch hnone⟩

end RetryTrial.Table
