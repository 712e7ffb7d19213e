import RetryTrial.Decline.Classifier
import RetryTrial.Proofs.Decline.Registration
import RetryTrial.Proofs.Text.Numeral

/-!
# The verdict on a plugin's report

A code that spells a listed number decides, whatever the message says. Otherwise the keywords in the
message decide for a routed plugin, and the verdict is marked as a guess by the code zero, which no
processor may publish. Whoever gets no verdict finds out from the log.
-/

namespace RetryTrial

namespace Classifier

variable {c : Classifier} {plugin processor : String} {code message : Option String} {d : Decline}

/-- The code spells a number under which the plugin's processor lists this decline. -/
def Listed (table : Table) (plugin : String) (code : Option String) (d : Decline) : Prop :=
  ∃ s number, code = some s ∧ Text.Spells s number.toInt ∧ table.lookup? plugin number = some d

/-- Keywords in the message lead to this decline, which names the plugin's processor. -/
def Guessed (c : Classifier) (plugin : String) (message : Option String) (d : Decline) : Prop :=
  ∃ processor m rule, c.table.processorFor? plugin = some processor ∧ message = some m ∧
    c.matcher.find? message = some rule ∧ d = ⟨processor, 0, m, rule.category, rule.retryable⟩

theorem readCode?_eq_some_iff {s : String} {number : Int32} :
    readCode? s = some number ↔ Text.Spells s number.toInt :=
  Text.int32?_trim_eq_some_iff

theorem processorFor?_of_lookup? {table : Table} {number : Int32}
    (h : table.lookup? plugin number = some d) :
    ∃ processor, table.processorFor? plugin = some processor := by
  obtain ⟨route, hr, -⟩ := Table.lookup?_eq_some.mp h
  exact ⟨route.processor, by rw [Table.processorFor?, hr, Option.map_some]⟩

theorem Listed.unique {table : Table} {d' : Decline} (h : Listed table plugin code d)
    (h' : Listed table plugin code d') : d = d' := by
  obtain ⟨s, number, rfl, hs, hd⟩ := h
  obtain ⟨s', number', hc, hs', hd'⟩ := h'
  obtain rfl := Option.some.inj hc
  rw [← readCode?_eq_some_iff] at hs hs'
  obtain rfl := Option.some.inj (hs.symm.trans hs')
  exact Option.some.inj (hd.symm.trans hd')

theorem value_guess_eq_some_iff (hp : c.table.processorFor? plugin = some processor) :
    (c.guess plugin processor message).value = some d ↔ Guessed c plugin message d := by
  rw [guess, Guessed]
  cases message with
  | none => simp
  | some m => cases c.matcher.find? (some m) <;> simp [hp, Decline.guessedCode, eq_comm]

theorem classify_of_unrouted (hp : c.table.processorFor? plugin = none) :
    c.classify plugin code message =
      Traced.log (.pluginUnrouted plugin) >>= fun _ => pure none := by
  simp only [classify, hp]

theorem classify_of_listed (h : Listed c.table plugin code d) :
    c.classify plugin code message = pure (some d) := by
  obtain ⟨s, number, rfl, hs, hd⟩ := h
  obtain ⟨processor, hp⟩ := processorFor?_of_lookup? hd
  simp only [classify, hp, readCode?_eq_some_iff.mpr hs, hd]

theorem classify_of_not_listed (hp : c.table.processorFor? plugin = some processor)
    (h : ∀ d, ¬ Listed c.table plugin code d) (message : Option String) :
    ∃ note : Traced Unit, c.classify plugin code message =
      note >>= fun _ => c.guess plugin processor message := by
  cases code with
  | none => exact ⟨pure (), by simp only [classify, hp, pure_bind]⟩
  | some s =>
      cases hs : readCode? s with
      | none => exact ⟨Traced.log (.codeUnreadable s (message.getD "")), by
          simp only [classify, hp, hs]⟩
      | some number =>
          cases hd : c.table.lookup? plugin number with
          | none => exact ⟨Traced.log (.codeUnlisted plugin number (message.getD "")), by
              simp only [classify, hp, hs, hd]⟩
          | some d =>
              exact absurd ⟨s, number, rfl, readCode?_eq_some_iff.mp hs, hd⟩ (h d)

theorem value_classify_eq_some_iff : (c.classify plugin code message).value = some d ↔
    Listed c.table plugin code d ∨
      (∀ d', ¬ Listed c.table plugin code d') ∧ Guessed c plugin message d := by
  by_cases hl : ∃ d', Listed c.table plugin code d'
  · obtain ⟨d', hl⟩ := hl
    rw [classify_of_listed hl, Traced.value_pure]
    constructor
    · intro h
      obtain rfl := Option.some.inj h
      exact Or.inl hl
    · rintro (h | ⟨hn, -⟩)
      · rw [hl.unique h]
      · exact absurd hl (hn d')
  · have hn : ∀ d', ¬ Listed c.table plugin code d' := not_exists.mp hl
    rw [or_iff_right (hn d), and_iff_right hn]
    cases hp : c.table.processorFor? plugin with
    | none => simp [classify_of_unrouted hp, Guessed, hp]
    | some processor =>
        obtain ⟨note, hnote⟩ := classify_of_not_listed hp hn message
        rw [hnote, Traced.value_bind, value_guess_eq_some_iff hp]

theorem exists_info_of_value_guess_eq_none (h : (c.guess plugin processor message).value = none) :
    ∃ e ∈ (c.guess plugin processor message).entries, e.level = .info := by
  rw [guess] at h ⊢
  cases hm : c.matcher.find? message with
  | some rule => simp [hm] at h
  | none => exact ⟨.messageUnmatched plugin (message.getD ""), by simp, rfl⟩

theorem exists_info_of_value_classify_eq_none (h : (c.classify plugin code message).value = none) :
    ∃ e ∈ (c.classify plugin code message).entries, e.level = .info := by
  cases hp : c.table.processorFor? plugin with
  | none =>
      rw [classify_of_unrouted hp]
      exact ⟨.pluginUnrouted plugin, by simp, rfl⟩
  | some processor =>
      have hn : ∀ d, ¬ Listed c.table plugin code d := by
        intro d hl
        rw [classify_of_listed hl] at h
        cases h
      obtain ⟨note, hnote⟩ := classify_of_not_listed hp hn message
      rw [hnote, Traced.value_bind] at h
      obtain ⟨e, he, hlevel⟩ := exists_info_of_value_guess_eq_none h
      exact ⟨e, by simp [hnote, he], hlevel⟩

theorem value_classify_congr {other : String}
    (hp : c.table.processorFor? plugin = c.table.processorFor? other)
    (hc : c.table.codesFor? plugin = c.table.codesFor? other) (code message : Option String) :
    (c.classify plugin code message).value = (c.classify other code message).value := by
  have hl : Listed c.table plugin code = Listed c.table other code := by
    funext d
    simp only [Listed, Table.lookup?, hc]
  have hg : Guessed c plugin message = Guessed c other message := by
    funext d
    simp only [Guessed, hp]
  apply Option.ext
  intro d
  rw [value_classify_eq_some_iff, value_classify_eq_some_iff, hl, hg]

end Classifier

namespace Table

variable {registrations : List Registration} {plugin : String} {number : Int32} {d : Decline}

/-- What a table lists carries the number that it is listed under and the plugin's processor. -/
theorem code_and_processor_of_lookup?_build
    (h : (build registrations).value.lookup? plugin number = some d) :
    d.code = number ∧ (build registrations).value.processorFor? plugin = some d.processor := by
  obtain ⟨name, rows, row, ht, -, hrow, rfl⟩ := lookup?_build_eq_some_iff.mp h
  exact ⟨hrow.holds, processorFor?_build_eq_some_iff.mpr ht⟩

end Table

namespace Published

theorem code_ne_zero {name : String} {rows : List PublishedCode}
    (h : .processor name rows ∈ registrations) : ∀ row ∈ rows, row.code ≠ 0 := by
  have hall : ∀ codes ∈ [adyenCodes, braintreeCodes, paymentechCodes],
      ∀ row ∈ codes, row.code ≠ 0 := by decide +kernel
  apply hall
  simp only [registrations, List.mem_cons, Registration.processor.injEq, reduceCtorEq,
    List.not_mem_nil, or_false] at h
  rcases h with ⟨-, rfl⟩ | ⟨-, rfl⟩ | ⟨-, rfl⟩ <;> simp

theorem lookup?_zero (plugin : String) :
    (Table.build registrations).value.lookup? plugin 0 = none := by
  rw [Option.eq_none_iff_forall_ne_some]
  intro d hd
  obtain ⟨name, rows, row, -, hrows, hrow, -⟩ := Table.lookup?_build_eq_some_iff.mp hd
  exact code_ne_zero (Table.mem_processors.mp hrows.mem) row hrow.mem hrow.holds

end Published

namespace Classifier

/-- What is classified how, by a table in which no decline has the code of a guess. -/
theorem verdict_listed_or_guessed (registrations : List Registration) (matcher : Matcher)
    (hzero : ∀ plugin, (Table.build registrations).value.lookup? plugin 0 = none)
    (plugin : String) (code message : Option String) :
    let table := (Table.build registrations).value
    let answer := classify ⟨table, matcher⟩ plugin code message
    (∀ number d, table.lookup? plugin number = some d →
      (answer.value = some d ↔ ∃ s, code = some s ∧ Text.Spells s number.toInt)) ∧
    ((¬ ∃ s number d, code = some s ∧ Text.Spells s number.toInt ∧
        table.lookup? plugin number = some d) →
      ∀ processor, table.processorFor? plugin = some processor →
        ((∃ d, answer.value = some d) ↔ ∃ rule, matcher.find? message = some rule) ∧
        ∀ d rule, answer.value = some d → matcher.find? message = some rule →
          ∃ m, message = some m ∧
            d = ⟨processor, 0, m, rule.category, rule.retryable⟩) ∧
    (table.processorFor? plugin = none → answer.value = none) ∧
    (∀ d, answer.value = some d →
      (d.isGuess = true ↔ ∀ number, table.lookup? plugin number ≠ some d) ∧
      table.processorFor? plugin = some d.processor) ∧
    (answer.value = none → ∃ e ∈ answer.entries, e.level = .info) := by
  intro table answer
  have hanswer : ∀ d, answer.value = some d ↔ Listed table plugin code d ∨
      (∀ d', ¬ Listed table plugin code d') ∧ Guessed ⟨table, matcher⟩ plugin message d :=
    fun d => value_classify_eq_some_iff
  refine ⟨?_, ?_, ?_, ?_, exists_info_of_value_classify_eq_none⟩
  · intro number d hd
    rw [hanswer]
    constructor
    · rintro (⟨s, number', hs, hspells, hd'⟩ | ⟨-, processor, m, rule, -, -, -, rfl⟩)
      · have hcode := (Table.code_and_processor_of_lookup?_build hd).1
        have hcode' := (Table.code_and_processor_of_lookup?_build hd').1
        obtain rfl : number' = number := hcode'.symm.trans hcode
        exact ⟨s, hs, hspells⟩
      · obtain rfl := (Table.code_and_processor_of_lookup?_build hd).1
        rw [hzero] at hd
        cases hd
    · rintro ⟨s, hs, hspells⟩
      exact Or.inl ⟨s, number, hs, hspells, hd⟩
  · intro hn processor hp
    have hnot : ∀ d, ¬ Listed table plugin code d :=
      fun d ⟨s, number, h⟩ => hn ⟨s, number, d, h⟩
    have hguess : ∀ d, answer.value = some d ↔ Guessed ⟨table, matcher⟩ plugin message d := by
      intro d
      rw [hanswer, or_iff_right (hnot d), and_iff_right hnot]
    constructor
    · constructor
      · rintro ⟨d, hd⟩
        obtain ⟨-, -, rule, -, -, hrule, -⟩ := (hguess d).mp hd
        exact ⟨rule, hrule⟩
      · rintro ⟨rule, hrule⟩
        cases message with
        | none => cases hrule
        | some m => exact ⟨_, (hguess _).mpr ⟨processor, m, rule, hp, rfl, hrule, rfl⟩⟩
    · intro d rule hd hrule
      obtain ⟨processor', m, rule', hp', hm, hrule', rfl⟩ := (hguess d).mp hd
      obtain rfl := Option.some.inj (hp.symm.trans hp')
      obtain rfl := Option.some.inj (hrule.symm.trans hrule')
      exact ⟨m, hm, rfl⟩
  · intro hp
    exact congrArg Traced.value (classify_of_unrouted hp)
  · intro d hd
    rcases (hanswer d).mp hd with ⟨s, number, -, -, hl⟩ | ⟨-, processor, m, rule, hp, -, -, rfl⟩
    · obtain ⟨hcode, hp⟩ := Table.code_and_processor_of_lookup?_build hl
      refine ⟨?_, hp⟩
      rw [Decline.isGuess_iff, hcode]
      constructor
      · rintro rfl
        exact absurd (hl.symm.trans (hzero plugin)) (by simp)
      · intro h
        exact absurd hl (h number)
    · refine ⟨?_, hp⟩
      rw [Decline.isGuess_iff]
      refine iff_of_true rfl ?_
      intro number hl
      obtain rfl := (Table.code_and_processor_of_lookup?_build hl).1
      exact absurd (hl.symm.trans (hzero plugin)) (by simp)

/-- The published table decides on a padded code although the message names a keyword. -/
theorem verdict_listed_despite_keyword :
    (∀ plugin, (Table.build Published.registrations).value.lookup? plugin 0 = none) ∧
    (classify ⟨(Table.build Published.registrations).value, .standard⟩ "killbill-adyen"
      (some "\u00a0+062\t") (some "Fraud")).value =
        some ⟨"Adyen", 62, "Restricted card", .generalDecline, true⟩ := by
  have hlookup : (Table.build Published.registrations).value.lookup? "killbill-adyen" 62 =
      some ⟨"Adyen", 62, "Restricted card", .generalDecline, true⟩ := by
    refine Table.lookup?_build_eq_some_iff.mpr ⟨"Adyen", Published.adyenCodes,
      ⟨62, "Restricted card", .generalDecline, true⟩, ?_, ?_, ?_, rfl⟩
    · exact ⟨[], _, rfl, ⟨rfl, _, List.mem_cons_self⟩, by decide⟩
    · exact ⟨[], _, rfl, rfl, by decide⟩
    · exact find?_reverse_eq_some_iff.mp rfl
  have hspells : Text.Spells "\u00a0+062\t" (62 : Int32).toInt :=
    ⟨['\u00a0'], ['+', '0', '6', '2'], ['\t'], rfl, .plus ⟨by simp, by simp⟩,
      List.forall_mem_singleton.mpr rfl, List.forall_mem_singleton.mpr rfl⟩
  refine ⟨Published.lookup?_zero, ?_⟩
  exact ((verdict_listed_or_guessed Published.registrations .standard Published.lookup?_zero
    "killbill-adyen" (some "\u00a0+062\t") (some "Fraud")).1 62 _ hlookup).mpr ⟨_, rfl, hspells⟩

end Classifier

end RetryTrial
