import RetryTrial.Proofs.Decline.Classification

/-!
# The last registration wins

Which processor a plugin is routed to, what is listed for it, and which routes are dropped follow
from the order among routes and the order among processors alone. How the two are interleaved makes
no difference, and neither does the plugin to plugins of one processor.
-/

namespace RetryTrial.Table

variable {registrations moved : List Registration} {plugin other : String} {code : Int32}

theorem processorFor?_build_eq_none_iff :
    (build registrations).value.processorFor? plugin = none ↔
      ∀ name, .route plugin name ∈ registrations → ¬ Registered registrations name := by
  have hexists : (∃ name, (build registrations).value.processorFor? plugin = some name) ↔
      ∃ name, .route plugin name ∈ registrations ∧ Registered registrations name := by
    simp only [processorFor?_build_eq_some_iff, exists_targets_iff]
  rw [← Option.not_isSome_iff_eq_none, Option.isSome_iff_exists, hexists]
  simp only [not_exists, not_and]

theorem lookup?_build_eq_none_iff :
    (build registrations).value.lookup? plugin code = none ↔
      ∀ name rows row, Targets registrations plugin name → Publishes registrations name rows →
        row ∈ rows → row.code ≠ code := by
  rw [Option.eq_none_iff_forall_ne_some]
  constructor
  · intro h name rows row ht hp hrow hcode
    have hmem : ∃ r ∈ rows, r.code = code := ⟨row, hrow, hcode⟩
    obtain ⟨last, hlast⟩ := exists_isLast_iff.mpr hmem
    exact h _ (lookup?_build_eq_some_iff.mpr ⟨name, rows, last, ht, hp, hlast, rfl⟩)
  · intro h d hd
    obtain ⟨name, rows, row, ht, hp, hrow, -⟩ := lookup?_build_eq_some_iff.mp hd
    exact h name rows row ht hp hrow.mem hrow.holds

theorem build_congr (hp : processors moved = processors registrations)
    (hr : routed moved = routed registrations) : build moved = build registrations := by
  have hbuilder : TableBuilder.of moved = TableBuilder.of registrations := by
    rw [TableBuilder.mk.injEq]
    exact ⟨by rw [processors_of, processors_of, hp], by rw [routes_of, routes_of, hr]⟩
  rw [build, build, hbuilder]

theorem codesFor?_build_congr
    (h : (build registrations).value.processorFor? plugin =
      (build registrations).value.processorFor? other) :
    (build registrations).value.codesFor? plugin =
      (build registrations).value.codesFor? other := by
  have ht : Targets registrations plugin = Targets registrations other := by
    funext name
    rw [← processorFor?_build_eq_some_iff, ← processorFor?_build_eq_some_iff, h]
  apply Option.ext
  intro codes
  rw [codesFor?_build_eq_some_iff, codesFor?_build_eq_some_iff, ht]

/-- What a table says of every plugin and code, by the registrations it is built from. -/
theorem last_registrations_win (registrations : List Registration) :
    let table := (build registrations).value
    (∀ plugin name, table.processorFor? plugin = some name ↔ Targets registrations plugin name) ∧
    (∀ plugin, table.processorFor? plugin = none ↔
      ∀ name, .route plugin name ∈ registrations → ¬ Registered registrations name) ∧
    (∀ plugin code d, table.lookup? plugin code = some d ↔
      ∃ name rows row, Targets registrations plugin name ∧ Publishes registrations name rows ∧
        IsLast (fun r : PublishedCode => r.code = code) rows row ∧
        d = ⟨name, code, row.message, row.category, row.retryable⟩) ∧
    (∀ plugin code, table.lookup? plugin code = none ↔
      ∀ name rows row, Targets registrations plugin name → Publishes registrations name rows →
        row ∈ rows → row.code ≠ code) ∧
    (build registrations).entries =
      ((routed registrations).filter fun r => ¬ Registered registrations r.2).map
        (fun r => .routeDropped r.1 r.2) ∧
    (∀ e ∈ (build registrations).entries, e.level = .warn) ∧
    (∀ moved, processors moved = processors registrations →
      routed moved = routed registrations → build moved = build registrations) ∧
    (∀ plugin other, table.processorFor? plugin = table.processorFor? other →
      table.codesFor? plugin = table.codesFor? other ∧
      ∀ (matcher : Matcher) (code message : Option String),
        (Classifier.classify ⟨table, matcher⟩ plugin code message).value =
          (Classifier.classify ⟨table, matcher⟩ other code message).value) := by
  intro table
  refine ⟨fun _ _ => processorFor?_build_eq_some_iff, fun _ => processorFor?_build_eq_none_iff, ?_,
    fun _ _ => lookup?_build_eq_none_iff, entries_build registrations, ?_,
    fun _ => build_congr, ?_⟩
  · intro plugin code d
    rw [lookup?_build_eq_some_iff]
    constructor
    · rintro ⟨name, rows, row, ht, hp, hrow, rfl⟩
      obtain rfl := hrow.holds
      exact ⟨name, rows, row, ht, hp, hrow, rfl⟩
    · rintro ⟨name, rows, row, ht, hp, hrow, rfl⟩
      obtain rfl := hrow.holds
      exact ⟨name, rows, row, ht, hp, hrow, rfl⟩
  · intro e he
    rw [entries_build] at he
    obtain ⟨r, -, rfl⟩ := List.mem_map.mp he
    rfl
  · intro plugin other h
    have hcodes := codesFor?_build_congr h
    exact ⟨hcodes, fun matcher code message =>
      Classifier.value_classify_congr h hcodes code message⟩

end RetryTrial.Table
