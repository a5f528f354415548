import Wording.Settings.Builtin
import Wording.Proofs.Finding.Terms
import Wording.Proofs.Scan.Content

/-! # What a report owes to the terms of the settings

A text is read the same way whatever the terms, so the number of its tokens does not hang on them. Terms behind the
others hide no finding, and terms in another order change neither the scores of a report nor what it finds, but for the
terms that it names for identifiers. Each of these is a law of the findings of one token, lifted over the kinds of
tokens that count and over the tokens of each kind.
-/

set_option autoImplicit false

namespace Wording

/-- Settings that differ in nothing but their terms let the same kinds of tokens count. -/
theorem Settings.AgreeButTerms.counts_eq {s t : Settings} (h : s.AgreeButTerms t) : t.counts = s.counts := by
  funext kind
  cases kind with
  | identifier => exact h.includeIdentifiers_eq
  | string => exact h.includeStrings_eq
  | comment => exact h.includeComments_eq

namespace Scanner

section

variable {s t : Settings} {tokens : Tokens}

theorem search_count_eq (h : s.AgreeButTerms t) : (t.search tokens).1 = (s.search tokens).1 := by
  simp only [Settings.search, scanTokens, countedTokens_eq, h.counts_eq]

/-- The findings with more terms are, but for those of the new terms, the findings without them. -/
theorem filter_search_of_more {more : List Term} (h : s.AgreeButTerms t)
    (hterms : t.terms = s.terms ++ more) :
    (t.search tokens).2.filter (fun f => f.term ∈ s.terms) = (s.search tokens).2 := by
  simp only [search_findings_eq, h.counts_eq, List.filter_flatMap,
    Settings.filter_findings_of_more h hterms]

/-- With terms in another order, the same number of findings is made. -/
theorem length_search_of_perm (h : s.AgreeButTerms t) (hperm : s.terms.Perm t.terms) :
    (t.search tokens).2.length = (s.search tokens).2.length := by
  simp only [search_findings_eq, h.counts_eq, List.length_flatMap,
    Settings.length_findings_of_perm h hperm]

end

/-- Whatever the settings, a text is refused for the same reason, or it is read once and reported on by each
of them. -/
theorem scanText_withSettings {s : Scanner} (hs : s.InStep) (settings : Settings) (around : Surroundings)
    (name content : Text) :
    (∃ e, s.scanText around name content = .error e ∧
        (s.withSettings settings).scanText around name content = .error e) ∨
      ∃ read, s.scanText around name content = .ok (reportOn s.settings around.now name name read) ∧
        (s.withSettings settings).scanText around name content =
          .ok (reportOn settings around.now name name read) := by
  have hreading : (s.withSettings settings).reading name content = s.reading name content := rfl
  rw [scanText_eq hs, scanText_eq (s.inStep_withSettings settings), hreading]
  cases s.reading name content with
  | error e => exact Or.inl ⟨e, rfl, rfl⟩
  | ok read => exact Or.inr ⟨read, rfl, rfl⟩

/-- With terms behind the others, a text is refused as it was without them, or it has as many tokens and all
the findings that it had, in their order. The others are findings of the new terms. -/
theorem findings_of_scanText_moreTerms {s : Scanner} (hs : s.InStep) (settings : Settings) (more : List Term)
    (h : s.settings.AgreeButTerms settings) (hterms : settings.terms = s.settings.terms ++ more)
    (around : Surroundings) (name content : Text) :
    (∃ e, s.scanText around name content = .error e ∧
        (s.withSettings settings).scanText around name content = .error e) ∨
      ∃ report larger, s.scanText around name content = .ok report ∧
        (s.withSettings settings).scanText around name content = .ok larger ∧
        larger.totalElements = report.totalElements ∧
        report.findings.Sublist larger.findings ∧
        larger.findings.filter (fun f => f.term ∈ s.settings.terms) = report.findings := by
  rcases scanText_withSettings hs settings around name content with hrefused | ⟨read, hreport, hlarger⟩
  · exact Or.inl hrefused
  · have hcount : (settings.search read.2).1 = (s.settings.search read.2).1 :=
      search_count_eq h
    have hold : (settings.search read.2).2.filter (fun f => f.term ∈ s.settings.terms) =
        (s.settings.search read.2).2 := filter_search_of_more h hterms
    refine Or.inr ⟨_, _, hreport, hlarger, congrArg Int.ofNat hcount, ?_, hold⟩
    rw [reportOn, ← hold]
    exact List.filter_sublist

/-- The built-in settings with their first two terms. -/
def twoTerms : Settings :=
  { Settings.builtin with
    terms := Settings.builtinTerms.take 2
    distinct := by decide }

/-- What is found with the first two of the built-in terms is found with all of them. -/
theorem findings_of_scanText_moreTerms_boy :
    ∃ report larger,
      (new twoTerms Catalog.builtin 100 []).scanText ⟨⟨.folder [], []⟩, .whole 0⟩ "a.js".toList
          "let woman = 'boy'".toList = .ok report ∧
        ((new twoTerms Catalog.builtin 100 []).withSettings Settings.builtin).scanText
          ⟨⟨.folder [], []⟩, .whole 0⟩ "a.js".toList "let woman = 'boy'".toList = .ok larger ∧
        report.findings.map (·.content) = ["woman".toList] ∧ report.findings.Sublist larger.findings := by
  have hfound : ((new twoTerms Catalog.builtin 100 []).scanText ⟨⟨.folder [], []⟩, .whole 0⟩ "a.js".toList
      "let woman = 'boy'".toList).toOption.map (fun report => report.findings.map (·.content)) =
        some ["woman".toList] := by decide +kernel
  obtain ⟨e, hrefused, -⟩ | ⟨report, larger, hreport, hlarger, -, hsublist, -⟩ :=
    findings_of_scanText_moreTerms (inStep_new twoTerms Catalog.builtin 100 []) Settings.builtin
      (Settings.builtinTerms.drop 2) ⟨rfl, rfl, rfl, rfl, rfl⟩ rfl ⟨⟨.folder [], []⟩, .whole 0⟩
      "a.js".toList "let woman = 'boy'".toList
  · rw [hrefused] at hfound
    cases hfound
  · rw [hreport] at hfound
    exact ⟨report, larger, hreport, hlarger, Option.some.inj hfound, hsublist⟩

/-- With terms in another order, a text is refused as it was, or it has the same scores. Identifiers are found
in the same places and in the same order, if under other terms, and the findings of strings and of comments are
the same in another order. -/
theorem scores_of_scanText_permutedTerms {s : Scanner} (hs : s.InStep) (settings : Settings)
    (h : s.settings.AgreeButTerms settings) (hperm : s.settings.terms.Perm settings.terms)
    (around : Surroundings) (name content : Text) :
    (∃ e, s.scanText around name content = .error e ∧
        (s.withSettings settings).scanText around name content = .error e) ∨
      ∃ report other, s.scanText around name content = .ok report ∧
        (s.withSettings settings).scanText around name content = .ok other ∧
        (other.totalElements = report.totalElements ∧ other.biasedElements = report.biasedElements ∧
          other.biasPercentage = report.biasPercentage ∧
          other.estimatedFixTime = report.estimatedFixTime) ∧
        (other.findings.filter (·.kind = .identifier)).map Finding.withoutTerm =
          (report.findings.filter (·.kind = .identifier)).map Finding.withoutTerm ∧
        ∀ kind ≠ .identifier,
          (other.findings.filter (·.kind = kind)).Perm (report.findings.filter (·.kind = kind)) := by
  rcases scanText_withSettings hs settings around name content with hrefused | ⟨read, hreport, hother⟩
  · exact Or.inl hrefused
  · have hcount : (settings.search read.2).1 = (s.settings.search read.2).1 :=
      search_count_eq h
    have hlength : (settings.search read.2).2.length = (s.settings.search read.2).2.length :=
      length_search_of_perm h hperm
    refine Or.inr ⟨_, _, hreport, hother, ⟨?_, ?_, ?_, ?_⟩, ?_, ?_⟩
    · exact congrArg Int.ofNat hcount
    · exact congrArg Int.ofNat hlength
    · simp only [reportOn, hcount, hlength]
    · simp only [reportOn, hlength, h.timePerFix_eq]
    · simp only [reportOn, filter_kind_search, h.counts_eq]
      split
      · exact Settings.map_withoutTerm_findings h hperm
      · rfl
    · intro kind hkind
      simp only [reportOn, filter_kind_search, h.counts_eq]
      split
      · exact (Settings.perm_findings h hperm hkind).symm
      · exact List.Perm.refl _

/-- The built-in settings with their terms from the last to the first. -/
def reversedTerms : Settings :=
  { Settings.builtin with
    terms := Settings.builtinTerms.reverse
    distinct := by decide }

/-- With the built-in terms in reverse, an identifier is found under another term in the same place. -/
theorem scores_of_scanText_permutedTerms_womanizer :
    ∃ report other,
      (new Settings.builtin Catalog.builtin 100 []).scanText ⟨⟨.folder [], []⟩, .whole 0⟩ "a.js".toList
          "let womanizer = 1".toList = .ok report ∧
        ((new Settings.builtin Catalog.builtin 100 []).withSettings reversedTerms).scanText
          ⟨⟨.folder [], []⟩, .whole 0⟩ "a.js".toList "let womanizer = 1".toList = .ok other ∧
        (report.findings.map (·.term.text) = ["man".toList] ∧
          other.findings.map (·.term.text) = ["woman".toList]) ∧
        other.biasedElements = report.biasedElements ∧
        (other.findings.filter (·.kind = .identifier)).map Finding.withoutTerm =
          (report.findings.filter (·.kind = .identifier)).map Finding.withoutTerm := by
  have hfirst : ((new Settings.builtin Catalog.builtin 100 []).scanText ⟨⟨.folder [], []⟩, .whole 0⟩
      "a.js".toList "let womanizer = 1".toList).toOption.map
        (fun report => report.findings.map (·.term.text)) = some ["man".toList] := by decide +kernel
  have hlast : (((new Settings.builtin Catalog.builtin 100 []).withSettings reversedTerms).scanText
      ⟨⟨.folder [], []⟩, .whole 0⟩ "a.js".toList "let womanizer = 1".toList).toOption.map
        (fun report => report.findings.map (·.term.text)) = some ["woman".toList] := by decide +kernel
  obtain ⟨e, hrefused, -⟩ | ⟨report, other, hreport, hother, ⟨-, hbiased, -, -⟩, hidentifiers, -⟩ :=
    scores_of_scanText_permutedTerms (inStep_new Settings.builtin Catalog.builtin 100 []) reversedTerms
      ⟨rfl, rfl, rfl, rfl, rfl⟩ (List.reverse_perm _).symm ⟨⟨.folder [], []⟩, .whole 0⟩ "a.js".toList
      "let womanizer = 1".toList
  · rw [hrefused] at hfirst
    cases hfirst
  · rw [hreport] at hfirst
    rw [hother] at hlast
    exact ⟨report, other, hreport, hother, ⟨Option.some.inj hfirst, Option.some.inj hlast⟩, hbiased,
      hidentifiers⟩

end Scanner

end Wording
