import Mathlib.Data.List.Perm.Basic
import Wording.Proofs.Finding.Locate

/-! # What findings owe to the terms of the settings

Settings that differ in nothing but their terms compare texts alike and so find a token with a term in the same lines.
When terms are added behind them, the old ones still find what they found; an identifier that held an old term keeps it,
since the old ones come first. In another order, terms find the same strings and comments, and the same identifiers, if
under other terms.

The first is an equation on the filtered findings of one token (`filter_findings_of_more`), the second a permutation of
them (`perm_findings`) or, for an identifier, equality once the terms are taken off (`map_withoutTerm_findings`). Both
are lifted to reports elsewhere, token by token.
-/

set_option autoImplicit false

namespace Wording

/-- What a finding says of its token, whatever the term. -/
def Finding.withoutTerm (f : Finding) : TokenKind × Int × Int × Text × Text :=
  (f.kind, f.line, f.column, f.content, f.context)

namespace Settings

/-- That settings differ in nothing but their terms. -/
structure AgreeButTerms (s t : Settings) : Prop where
  timePerFix_eq : t.timePerFix = s.timePerFix
  includeIdentifiers_eq : t.includeIdentifiers = s.includeIdentifiers
  includeStrings_eq : t.includeStrings = s.includeStrings
  includeComments_eq : t.includeComments = s.includeComments
  caseSensitive_eq : t.caseSensitive = s.caseSensitive

variable {s t : Settings} {kind : TokenKind} {token : Text} {term : Term} {tokens lines : List Text}

namespace AgreeButTerms

/-- Settings that differ in nothing but their terms compare texts in the same form. -/
theorem fold_eq (h : AgreeButTerms s t) : t.matcher.fold = s.matcher.fold := by
  funext text
  rw [Matcher.fold, Matcher.fold, matcher, matcher, h.caseSensitive_eq]

theorem holds_eq (h : AgreeButTerms s t) : t.matcher.holds = s.matcher.holds := by
  funext token term
  rw [Matcher.holds, Matcher.holds, h.fold_eq]

theorem locate_eq (h : AgreeButTerms s t) :
    t.matcher.locate kind token term lines = s.matcher.locate kind token term lines := by
  have hfrom : ∀ number, t.matcher.locateFrom kind token term number lines =
      s.matcher.locateFrom kind token term number lines := by
    induction lines with
    | nil => exact fun _ => rfl
    | cons line rest ih =>
      intro number
      rw [Matcher.locateFrom, Matcher.locateFrom, h.fold_eq, ih]
  rw [Matcher.locate, Matcher.locate, h.holds_eq, hfrom]

end AgreeButTerms

/-- The findings of a token with a term are all with that term. -/
theorem filter_locate (p : Term → Bool) :
    (s.matcher.locate kind token term lines).filter (fun f => p f.term) =
      if p term then s.matcher.locate kind token term lines else [] := by
  have hterm : ∀ f ∈ s.matcher.locate kind token term lines, f.term = term :=
    fun f hf => (mem_locate_iff.mp hf).2.1.2.2
  split
  next hp =>
    apply List.filter_eq_self.mpr
    intro f hf
    rw [hterm f hf, hp]
  next hp =>
    apply List.filter_eq_nil_iff.mpr
    intro f hf
    rw [hterm f hf]
    exact hp

/-- The findings with some of the terms are those of the reported terms that are among them. -/
theorem filter_findings (p : Term → Bool) :
    (s.matcher.findings kind tokens lines).filter (fun f => p f.term) =
      tokens.flatMap fun token =>
        ((s.matcher.reportedTerms kind token).filter p).flatMap fun term => s.matcher.locate kind token term lines := by
  have hterms : ∀ (token : Text) (terms : List Term),
      (terms.flatMap fun term => s.matcher.locate kind token term lines).filter (fun f => p f.term) =
        (terms.filter p).flatMap fun term => s.matcher.locate kind token term lines := by
    intro token terms
    induction terms with
    | nil => rfl
    | cons term rest ih =>
      rw [List.flatMap_cons, List.filter_append, ih, filter_locate, List.filter_cons]
      split
      · rw [List.flatMap_cons]
      · rw [List.nil_append]
  rw [Matcher.findings, List.filter_flatMap]
  simp only [hterms]

/-! ## More terms -/

section More

variable {more : List Term} (h : AgreeButTerms s t) (hterms : t.terms = s.terms ++ more)

include hterms

theorem notMem_of_mem_more (hmore : term ∈ more) : term ∉ s.terms := by
  have hdistinct := t.distinct
  rw [hterms, List.map_append, List.nodup_append] at hdistinct
  intro hold
  exact hdistinct.2.2 _ (List.mem_map_of_mem hold) _ (List.mem_map_of_mem hmore) rfl

include h

/-- Of the terms that are reported with more terms, those that were there before were reported before. -/
theorem filter_reportedTerms_of_more :
    (t.matcher.reportedTerms kind token).filter (· ∈ s.terms) = s.matcher.reportedTerms kind token := by
  have hold : ∀ {terms : List Term}, (∀ term ∈ terms, term ∈ s.terms) →
      terms.filter (· ∈ s.terms) = terms :=
    fun hmem => List.filter_eq_self.mpr fun term hterm => decide_eq_true (hmem term hterm)
  have hnew : ∀ {terms : List Term}, (∀ term ∈ terms, term ∈ more) →
      terms.filter (· ∈ s.terms) = [] :=
    fun hmem => List.filter_eq_nil_iff.mpr fun term hterm hin =>
      notMem_of_mem_more hterms (hmem term hterm) (of_decide_eq_true hin)
  have hall : (t.matcher.allTerms token).filter (· ∈ s.terms) = s.matcher.allTerms token := by
    rw [allTerms_matcher, allTerms_matcher, hterms, h.holds_eq, List.filter_append, List.filter_append,
      hold fun term hterm => (List.mem_filter.mp hterm).1,
      hnew fun term hterm => (List.mem_filter.mp hterm).1, List.append_nil]
  cases kind with
  | identifier =>
    rw [Matcher.reportedTerms, Matcher.reportedTerms, firstTerm?_matcher, firstTerm?_matcher, hterms, h.holds_eq,
      List.find?_append]
    cases hfirst : s.terms.find? (s.matcher.holds token) with
    | some first =>
      apply hold
      intro term hterm
      obtain rfl : first = term := Option.some.inj (Option.mem_toList.mp hterm)
      exact List.mem_of_find?_eq_some hfirst
    | none =>
      apply hnew
      intro term hterm
      exact List.mem_of_find?_eq_some (Option.mem_toList.mp hterm)
  | string => exact hall
  | comment => exact hall

/-- The findings with more terms are, but for those of the new terms, the findings without them. -/
theorem filter_findings_of_more :
    (t.matcher.findings kind tokens lines).filter (fun f => f.term ∈ s.terms) =
      s.matcher.findings kind tokens lines := by
  rw [filter_findings (s := t) fun term => decide (term ∈ s.terms), Matcher.findings]
  simp only [filter_reportedTerms_of_more h hterms, h.locate_eq]

end More

/-! ## Terms in another order -/

/-- The findings of a token with one term or with another that it holds differ in the terms only. -/
theorem map_withoutTerm_locate {other : Term} (hterm : s.matcher.holds token term = true)
    (hother : s.matcher.holds token other = true) :
    (s.matcher.locate kind token term lines).map Finding.withoutTerm =
      (s.matcher.locate kind token other lines).map Finding.withoutTerm := by
  have hfrom : ∀ number, (s.matcher.locateFrom kind token term number lines).map Finding.withoutTerm =
      (s.matcher.locateFrom kind token other number lines).map Finding.withoutTerm := by
    induction lines with
    | nil => exact fun _ => rfl
    | cons line rest ih =>
      intro number
      rw [Matcher.locateFrom, Matcher.locateFrom]
      split
      · rw [List.map_cons, List.map_cons, ih]
        rfl
      · exact ih (number + 1)
  rw [Matcher.locate, Matcher.locate, hterm, hother]
  split
  · exact hfrom 1
  · rfl

section Order

variable (h : AgreeButTerms s t) (hperm : s.terms.Perm t.terms)

include h hperm

/-- With terms in another order, the findings of strings and of comments are the same in another order. -/
theorem perm_findings (hkind : kind ≠ .identifier) :
    (s.matcher.findings kind tokens lines).Perm (t.matcher.findings kind tokens lines) := by
  have hreported : ∀ token, (s.matcher.reportedTerms kind token).Perm (t.matcher.reportedTerms kind token) := by
    intro token
    have hall : (s.matcher.allTerms token).Perm (t.matcher.allTerms token) := by
      rw [allTerms_matcher, allTerms_matcher, h.holds_eq]
      exact hperm.filter _
    cases kind with
    | identifier => exact absurd rfl hkind
    | string => exact hall
    | comment => exact hall
  unfold Matcher.findings
  simp only [h.locate_eq]
  exact List.Perm.flatMap_left tokens fun token _ => (hreported token).flatMap_right _

/-- With terms in another order, a token reports one for an identifier exactly when it did. -/
theorem firstTerm?_eq_none_iff_of_perm : t.matcher.firstTerm? token = none ↔ s.matcher.firstTerm? token = none := by
  rw [firstTerm?_matcher, firstTerm?_matcher, List.find?_eq_none, List.find?_eq_none, h.holds_eq]
  exact forall_congr' fun term => imp_congr_left hperm.mem_iff.symm

/-- With terms in another order, identifiers are found in the same places, and in the same order. -/
theorem map_withoutTerm_findings :
    (t.matcher.findings .identifier tokens lines).map Finding.withoutTerm =
      (s.matcher.findings .identifier tokens lines).map Finding.withoutTerm := by
  unfold Matcher.findings
  simp only [List.map_flatMap, h.locate_eq]
  apply List.flatMap_congr
  intro token _
  rw [Matcher.reportedTerms, Matcher.reportedTerms]
  cases hfirst : s.matcher.firstTerm? token with
  | none => rw [(firstTerm?_eq_none_iff_of_perm h hperm).mpr hfirst]
  | some first =>
    cases hother : t.matcher.firstTerm? token with
    | none =>
      rw [(firstTerm?_eq_none_iff_of_perm h hperm).mp hother] at hfirst
      cases hfirst
    | some other =>
      have hheld : s.matcher.holds token first = true := holds_of_firstTerm? hfirst
      have hotherHeld : s.matcher.holds token other = true := h.holds_eq ▸ holds_of_firstTerm? hother
      rw [Option.toList_some, Option.toList_some, List.flatMap_singleton, List.flatMap_singleton]
      exact map_withoutTerm_locate hotherHeld hheld

/-- With terms in another order, the same number of findings is made. -/
theorem length_findings_of_perm :
    (t.matcher.findings kind tokens lines).length = (s.matcher.findings kind tokens lines).length := by
  cases kind with
  | identifier =>
    have hplaces : ((t.matcher.findings .identifier tokens lines).map Finding.withoutTerm).length = _ :=
      congrArg List.length (map_withoutTerm_findings h hperm)
    rwa [List.length_map, List.length_map] at hplaces
  | string => exact (perm_findings h hperm (by decide)).length_eq.symm
  | comment => exact (perm_findings h hperm (by decide)).length_eq.symm

end Order

end Settings

end Wording
