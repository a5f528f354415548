import Wording.Proofs.Finding.Locate

/-!
The findings of identifiers. A token with a term is found at rising lines, so no more than once on a line, and an
identifier reports one term alone: the first one, in the order of the settings, that it holds. So different
identifiers are found no more than once for each line and identifier.
-/

set_option autoImplicit false

namespace Wording.Settings

variable {s : Settings} {kind : TokenKind} {token : Text} {term : Term} {tokens lines : List Text}

/-! ## The first term -/

/-- That a term is the first one of the settings that a token holds, both as the settings compare texts. -/
structure IsFirstHeld (s : Settings) (token : Text) (term : Term) : Prop where
  held : s.matcher.fold term.text <:+: s.matcher.fold token
  first : ∃ before behind, s.terms = before ++ term :: behind ∧
    ∀ earlier ∈ before, ¬ s.matcher.fold earlier.text <:+: s.matcher.fold token

/-- The search for the first term answers the first one that the token holds. -/
theorem firstTerm?_eq_some_iff : s.matcher.firstTerm? token = some term ↔ s.IsFirstHeld token term := by
  simp only [firstTerm?_matcher, List.find?_eq_some_iff_append, Bool.not_eq_true', ← Bool.not_eq_true, holds_iff]
  exact ⟨fun h => ⟨h.1, h.2⟩, fun h => ⟨h.held, h.first⟩⟩

theorem head?_allTerms (s : Settings) (token : Text) :
    (s.matcher.allTerms token).head? = s.matcher.firstTerm? token := by
  rw [allTerms_matcher, firstTerm?_matcher, List.head?_filter]

/-- An identifier is reported with the first term that it holds. -/
theorem isFirstHeld_of_mem_findings {f : Finding} (h : f ∈ s.matcher.findings .identifier tokens lines) :
    s.IsFirstHeld f.content f.term := by
  obtain ⟨-, hreported, -⟩ := mem_findings_iff.mp h
  exact firstTerm?_eq_some_iff.mp (Option.mem_toList.mp hreported)

/-! ## One finding for each line -/

theorem pairwise_locateFrom (number : Nat) :
    (s.matcher.locateFrom kind token term number lines).Pairwise fun f g => f.line < g.line := by
  induction lines generalizing number with
  | nil => exact .nil
  | cons line rest ih =>
    rw [Matcher.locateFrom]
    split
    next column hcolumn =>
      refine List.pairwise_cons.mpr ⟨fun f hf => ?_, ih (number + 1)⟩
      obtain ⟨place, _, _, _, _, rfl⟩ := mem_locateFrom_iff.mp hf
      show (number : Int) < ((number + 1 + place : Nat) : Int)
      omega
    next => exact ih (number + 1)

/-- A token with a term is found no more than once on a line. -/
theorem pairwise_locate : (s.matcher.locate kind token term lines).Pairwise fun f g => f.line < g.line := by
  rw [Matcher.locate]
  split
  · exact pairwise_locateFrom 1
  · exact .nil

/-- Along the findings of one identifier, lines rise, for it is found with one term alone. -/
theorem pairwise_flatMap_reportedTerms :
    ((s.matcher.reportedTerms .identifier token).flatMap fun term =>
      s.matcher.locate .identifier token term lines).Pairwise fun f g => f.line < g.line := by
  rw [Matcher.reportedTerms]
  cases s.matcher.firstTerm? token with
  | none => exact .nil
  | some term =>
    rw [Option.toList_some, List.flatMap_singleton]
    exact pairwise_locate

/-- Different identifiers are found no more than once for each line and identifier. -/
theorem nodup_findings_identifier (h : tokens.Nodup) :
    ((s.matcher.findings .identifier tokens lines).map fun f => (f.line, f.content)).Nodup := by
  have hcontent : ∀ token, ∀ f ∈ (s.matcher.reportedTerms .identifier token).flatMap
      (fun term => s.matcher.locate .identifier token term lines), f.content = token := fun token f hf => by
    obtain ⟨term, -, hf⟩ := List.mem_flatMap.mp hf
    exact (mem_locate_iff.mp hf).2.1.2.1
  refine List.pairwise_map.mpr (List.pairwise_flatMap.mpr ⟨fun token _ => ?_, h.imp fun hne f hf g hg heq => hne ?_⟩)
  · exact pairwise_flatMap_reportedTerms.imp fun hlt heq => Int.ne_of_lt hlt (congrArg Prod.fst heq)
  · rw [← hcontent _ f hf, ← hcontent _ g hg]
    exact congrArg Prod.snd heq

end Wording.Settings
