import Mathlib.Algebra.BigOperators.Ring.Finset
import Mathlib.Algebra.Order.BigOperators.Group.List
import Mathlib.Algebra.Order.Group.Nat
import Wording.Settings.Builtin
import Wording.Proofs.Scan.PlainText

/-! # How the kinds of tokens share in a report

Each kind is counted and searched on its own, so that a report with some kinds counting is the report with all of them,
cut down to these kinds: its findings are those of the kinds that count (`search_findings_of_choice`), and its tokens
are the sum of the tokens of each (`search_count_of_choice`). A report without tokens has no findings. Both hold of a
text that a parser reads and of one that is read as words, since the words of a text count as strings, and the choice of
kinds has no part in the reading or in the matcher.
-/

set_option autoImplicit false

namespace Wording

/-- That the scores of a report are those of its findings, for some seconds for each of them, and that it has no
findings without tokens. -/
structure FileReport.Tallies (r : FileReport) (timePerFix : Int) : Prop where
  biasedElements_eq : r.biasedElements = r.findings.length
  estimatedFixTime_eq : r.estimatedFixTime = r.biasedElements * timePerFix
  findings_eq_nil : r.totalElements = 0 → r.findings = []

namespace Settings

/-- The settings that let exactly the chosen kinds of tokens count. -/
def counting (s : Settings) (choice : TokenKind → Bool) : Settings :=
  { s with
    includeIdentifiers := choice .identifier
    includeStrings := choice .string
    includeComments := choice .comment }

variable {s : Settings} {choice : TokenKind → Bool}

@[simp]
theorem counts_counting : (s.counting choice).counts = choice := by
  funext kind
  cases kind <;> rfl

theorem matcher_counting : (s.counting choice).matcher = s.matcher :=
  rfl

end Settings

namespace Scanner

variable {settings : Settings} {tokens : Tokens}

/-- The tokens that count are those of each kind that counts. -/
theorem search_count_eq_sum (settings : Settings) (tokens : Tokens) :
    (settings.search tokens).1 =
      ((kinds.filter settings.counts).map fun kind => (tokens.ofKind kind).length).sum := by
  simp only [Settings.search, scanTokens, countedTokens_eq, List.map_map, List.sum]
  rfl

theorem search_count_of_only (kind : TokenKind) :
    ((settings.counting (· = kind)).search tokens).1 = (tokens.ofKind kind).length := by
  rw [search_count_eq_sum, Settings.counts_counting]
  cases kind <;> simp [kinds]

/-- With some kinds counting, the tokens are the sum of what each of them counts alone. -/
theorem search_count_of_choice (choice : TokenKind → Bool) :
    ((settings.counting choice).search tokens).1 =
      ((kinds.filter choice).map fun kind => ((settings.counting (· = kind)).search tokens).1).sum := by
  simp only [search_count_of_only]
  rw [search_count_eq_sum, Settings.counts_counting]

/-- With some kinds counting, the findings are those of these kinds among all findings, in the same order. -/
theorem search_findings_of_choice (choice : TokenKind → Bool) :
    ((settings.counting choice).search tokens).2 =
      ((settings.counting fun _ => true).search tokens).2.filter fun f => choice f.kind := by
  rw [filter_search_kinds, search_findings_eq]
  simp only [Settings.counts_counting, Settings.matcher_counting, List.filter_true]

theorem search_findings_eq_nil (h : (settings.search tokens).1 = 0) :
    (settings.search tokens).2 = [] := by
  rw [search_count_eq_sum, List.sum_eq_zero_iff] at h
  rw [search_findings_eq, List.flatMap_eq_nil_iff]
  intro kind hkind
  have hnone : tokens.ofKind kind = [] := List.eq_nil_of_length_eq_zero (h _ (List.mem_map_of_mem hkind))
  rw [hnone]
  rfl

/-- The scores of every report are those of its findings. -/
theorem reportOn_tallies (settings : Settings) (now : Number.Quantity) (name path : Text)
    (read : Text × Tokens) : (reportOn settings now name path read).Tallies settings.timePerFix := by
  refine ⟨rfl, rfl, ?_⟩
  intro hzero
  exact search_findings_eq_nil (Int.ofNat_eq_zero.mp hzero)

/-- Whichever kinds of tokens count, a text is refused for the same reason, or it has a report for each choice of
kinds. The findings of that report are those of the chosen kinds among the findings with all kinds, in the same
order; its tokens are the sum of the tokens with each chosen kind alone; and its scores are those of its findings.
If no parser reads the text, its words count as strings. -/
theorem report_of_scanText_counting (s : Scanner) (around : Surroundings) (name content : Text) :
    (∃ e, ∀ choice,
        (s.withSettings (s.settings.counting choice)).scanText around name content = .error e) ∨
      ∃ report : (TokenKind → Bool) → FileReport,
        (∀ choice, (s.withSettings (s.settings.counting choice)).scanText around name content =
          .ok (report choice)) ∧
        (∀ choice, (report choice).findings =
          (report fun _ => true).findings.filter fun f => choice f.kind) ∧
        (∀ choice, (report choice).totalElements =
          ((kinds.filter choice).map fun kind => (report (· = kind)).totalElements).sum) ∧
        (∀ choice, (report choice).Tallies s.settings.timePerFix) ∧
        (s.catalog.parser? (s.catalog.detect name content) = none →
          ∀ kind, (report (· = kind)).totalElements =
            if kind = .string then ((Tokens.splitWords content).length : Int) else 0) := by
  have hscan : ∀ choice, (s.withSettings (s.settings.counting choice)).scanText around name content =
      (s.reading name content).map (reportOn (s.settings.counting choice) around.now name name) :=
    fun choice => scanText_eq (s.inStep_withSettings _) around name content
  cases hread : s.reading name content with
  | error e =>
    refine Or.inl ⟨e, fun choice => ?_⟩
    rw [hscan, hread]
    rfl
  | ok read =>
    refine Or.inr ⟨fun choice => reportOn (s.settings.counting choice) around.now name name read,
      fun choice => ?_, search_findings_of_choice, fun choice => ?_, fun choice => ?_, ?_⟩
    · rw [hscan, hread]
      rfl
    · simp only [reportOn, search_count_of_choice choice, Nat.cast_list_sum, List.map_map,
        Function.comp_def]
    · exact reportOn_tallies (s.settings.counting choice) around.now name name read
    · intro hplain kind
      rw [reading_of_plainText hplain] at hread
      split at hread
      · cases hread
      · cases hread
        simp only [reportOn, search_count_of_only]
        cases kind <;> rfl

/-- The words of a text that no parser reads are counted with strings, and with comments alone it has no tokens
and no findings. -/
theorem report_of_scanText_counting_notes :
    ∃ report : (TokenKind → Bool) → FileReport,
      (∀ choice, ((new Settings.builtin Catalog.builtin 100 []).withSettings
        (Settings.builtin.counting choice)).scanText ⟨⟨.folder [], []⟩, .whole 0⟩ "notes".toList
          "a man".toList = .ok (report choice)) ∧
      (report fun _ => true).totalElements = 2 ∧ (report (· = .comment)).findings = [] := by
  obtain ⟨e, hrefused⟩ | ⟨report, hreport, -, htotal, htallies, hwords⟩ :=
    report_of_scanText_counting (new Settings.builtin Catalog.builtin 100 []) ⟨⟨.folder [], []⟩, .whole 0⟩
      "notes".toList "a man".toList
  · have hall := hrefused fun _ => true
    have hscanned : ((new Settings.builtin Catalog.builtin 100 []).scanText ⟨⟨.folder [], []⟩, .whole 0⟩
        "notes".toList "a man".toList).toOption.isSome = true := by decide +kernel
    rw [show (new Settings.builtin Catalog.builtin 100 []).scanText ⟨⟨.folder [], []⟩, .whole 0⟩
      "notes".toList "a man".toList = .error e from hall] at hscanned
    cases hscanned
  · have honly := hwords (by decide)
    refine ⟨report, hreport, ?_, (htallies _).findings_eq_nil (honly .comment)⟩
    rw [htotal]
    simp only [kinds, List.filter_true, List.map_cons, List.map_nil, honly]
    decide

end Scanner

end Wording
