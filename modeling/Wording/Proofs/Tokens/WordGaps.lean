import Mathlib.Data.List.SplitBy
import Mathlib.Data.List.TakeWhile
import Wording.Proofs.Text.Blank
import Wording.Tokens.Basic

/-! # Words and the gaps between them

A gap is a run of white space that goes on no further on either side. A text is its words with its gaps between them, so
there is one word more than there are gaps, and nothing of the text is lost. Of the words only the first and the last
may have nothing in them: the first if the text begins with a gap, the last if it ends with one.

Every text is a word, then a gap, then a text that does not begin with white space, or it is all of one kind;
`gap_induction` takes texts apart like that, and each property of the words and of the gaps is proved along it
(`IsWordsAndGaps.word_append`).
-/

set_option autoImplicit false

namespace Wording

namespace Text

variable {t word gap rest : Text}

/-! ## Gaps -/

/-- A text has no white space exactly when none of its characters is any. -/
theorem hasBlank_eq_false_iff : hasBlank t = false ↔ ∀ c ∈ t, isBlank c = false := by
  simp only [hasBlank, List.any_eq_false, Bool.not_eq_true]

/-- What holds of all texts without white space, and of a word and a gap in front of a text of which it holds and that
goes on with no white space, holds of all texts. -/
theorem gap_induction {motive : Text → Prop}
    (word : ∀ t, hasBlank t = false → motive t)
    (gap : ∀ word gap rest, hasBlank word = false → gap ≠ [] → isAllBlank gap = true →
      rest.head?.any isBlank = false → motive rest → motive (word ++ gap ++ rest)) (t : Text) : motive t := by
  have hword : hasBlank (t.takeWhile (!isBlank ·)) = false :=
    hasBlank_eq_false_iff.mpr fun c hc => by simpa using List.mem_takeWhile_imp hc
  have hsplit : t.takeWhile (!isBlank ·) ++ t.dropWhile (!isBlank ·) = t := List.takeWhile_append_dropWhile
  cases hbehind : t.dropWhile (!isBlank ·) with
  | nil =>
    rw [hbehind, List.append_nil] at hsplit
    rw [hsplit] at hword
    exact word t hword
  | cons c cs =>
    have hc : isBlank c = true := by
      have hstop := List.head?_dropWhile_not (!isBlank ·) t
      rw [hbehind] at hstop
      simpa using hstop
    have hgap : isAllBlank (c :: cs.takeWhile isBlank) = true :=
      List.all_eq_true.mpr (List.forall_mem_cons.mpr ⟨hc, fun d hd => List.mem_takeWhile_imp hd⟩)
    have hrest : (cs.dropWhile isBlank).head?.any isBlank = false := by
      have hstop := List.head?_dropWhile_not isBlank cs
      cases h : (cs.dropWhile isBlank).head? with
      | none => rfl
      | some d => simpa [h] using hstop
    have hparts : t = t.takeWhile (!isBlank ·) ++ (c :: cs.takeWhile isBlank) ++ cs.dropWhile isBlank := by
      rw [List.append_assoc, List.cons_append, List.takeWhile_append_dropWhile, ← hbehind, hsplit]
    have hshorter : (cs.dropWhile isBlank).length < t.length := by
      have hlength := congrArg List.length hparts
      simp only [List.length_append, List.length_cons] at hlength
      omega
    rw [hparts]
    exact gap _ _ _ hword (List.cons_ne_nil _ _) hgap hrest (gap_induction word gap _)
termination_by t.length

/-- The gaps of a text: the runs of white space that go on no further on either side. -/
def gaps (t : Text) : List Text := (t.splitBy fun a b => isBlank a == isBlank b).filter isAllBlank

theorem gaps_of_forall {blank : Bool} (hne : t ≠ []) (h : ∀ c ∈ t, isBlank c = blank) :
    gaps t = if blank then [t] else [] := by
  have hrun : (t.splitBy fun a b => isBlank a == isBlank b) = [t] := by
    refine List.splitBy_of_isChain hne (List.Pairwise.isChain ?_)
    exact List.pairwise_of_forall_mem_list fun a ha b hb => by rw [h a ha, h b hb, beq_self_eq_true]
  obtain ⟨c, cs, rfl⟩ := List.exists_cons_of_ne_nil hne
  have hall : isAllBlank (c :: cs) = blank := by
    cases blank with
    | true => exact List.all_eq_true.mpr h
    | false => rw [isAllBlank, List.all_cons, h c List.mem_cons_self, Bool.false_and]
  rw [gaps, hrun, List.filter_singleton, hall, Bool.cond_eq_ite]

theorem gaps_of_not_hasBlank (h : hasBlank t = false) : gaps t = [] := by
  by_cases hnil : t = []
  · rw [hnil, gaps, List.splitBy_nil, List.filter_nil]
  · rw [gaps_of_forall hnil (hasBlank_eq_false_iff.mp h), if_neg Bool.false_ne_true]

theorem gaps_of_isAllBlank (hne : t ≠ []) (h : isAllBlank t = true) : gaps t = [t] := by
  rw [gaps_of_forall hne (List.all_eq_true.mp h), if_pos rfl]

/-- Where white space begins or ends, the gaps on both sides are those of the whole. -/
theorem gaps_append {before after : Text}
    (h : ∀ a ∈ before.getLast?, ∀ b ∈ after.head?, isBlank a ≠ isBlank b) :
    gaps (before ++ after) = gaps before ++ gaps after := by
  rw [gaps, List.splitBy_append, List.filter_append, ← gaps, ← gaps]
  exact fun a ha b hb => beq_false_of_ne (h a ha b hb)

/-- A gap behind a word, and in front of what goes on with no white space, is the first gap. -/
theorem gaps_word_append (hword : hasBlank word = false) (hne : gap ≠ []) (hgap : isAllBlank gap = true)
    (hrest : rest.head?.any isBlank = false) : gaps (word ++ gap ++ rest) = gap :: gaps rest := by
  have hblank : ∀ c ∈ gap, isBlank c = true := List.all_eq_true.mp hgap
  rw [List.append_assoc, gaps_append, gaps_append, gaps_of_not_hasBlank hword, gaps_of_isAllBlank hne hgap]
  · rfl
  · intro a ha b hb
    have hb : isBlank b = false := by simpa [Option.mem_def.mp hb] using hrest
    rw [hblank a (List.mem_of_mem_getLast? ha), hb]
    decide
  · intro a ha b hb
    rw [List.head?_append_of_ne_nil _ hne] at hb
    rw [hasBlank_eq_false_iff.mp hword a (List.mem_of_mem_getLast? ha), hblank b (List.mem_of_mem_head? hb)]
    decide

end Text

namespace Tokens

open Text (isBlank hasBlank isAllBlank gaps)

variable {t word gap rest : Text}

/-! ## Words -/

theorem splitWords_of_not_hasBlank (h : hasBlank t = false) : splitWords t = [t] := by
  rw [splitWords]
  induction t with
  | nil => rfl
  | cons c cs ih =>
    rw [hasBlank, List.any_cons, Bool.or_eq_false_iff] at h
    rw [wordsFrom, if_neg (Bool.eq_false_iff.mp h.1), ih h.2]

theorem wordsFrom_append_of_isAllBlank (h : isAllBlank gap = true) (rest : Text) :
    wordsFrom true (gap ++ rest) = wordsFrom true rest := by
  induction gap with
  | nil => rfl
  | cons c cs ih =>
    rw [isAllBlank, List.all_cons, Bool.and_eq_true] at h
    rw [List.cons_append, wordsFrom, if_pos h.1, if_pos rfl, ih h.2]

theorem wordsFrom_of_head? (h : rest.head?.any isBlank = false) : wordsFrom true rest = splitWords rest := by
  cases rest with
  | nil => rfl
  | cons c cs =>
    have hc : ¬ isBlank c = true := Bool.eq_false_iff.mp h
    rw [splitWords, wordsFrom, wordsFrom, if_neg hc, if_neg hc]

/-- A word with a gap behind it is the first word. -/
theorem splitWords_word_append (hword : hasBlank word = false) (hne : gap ≠ []) (hgap : isAllBlank gap = true)
    (hrest : rest.head?.any isBlank = false) : splitWords (word ++ gap ++ rest) = word :: splitWords rest := by
  rw [splitWords, List.append_assoc]
  induction word with
  | nil =>
    obtain ⟨c, cs, rfl⟩ := List.exists_cons_of_ne_nil hne
    rw [isAllBlank, List.all_cons, Bool.and_eq_true] at hgap
    rw [List.nil_append, List.cons_append, wordsFrom, if_pos hgap.1, if_neg Bool.false_ne_true,
      wordsFrom_append_of_isAllBlank hgap.2, wordsFrom_of_head? hrest]
  | cons c cs ih =>
    rw [hasBlank, List.any_cons, Bool.or_eq_false_iff] at hword
    rw [List.cons_append, wordsFrom, if_neg (Bool.eq_false_iff.mp hword.1), ih hword.2]

/-- That a text is a first word and later words with a gap in front of each: put together they are the text, the gaps
are those of the text, no word has white space in it, and only the first and the last one may have nothing in them, the
first if the text is empty or begins with white space and the last if it is empty or ends with white space. -/
structure IsWordsAndGaps (t first : Text) (later : List (Text × Text)) : Prop where
  text_eq : t = first ++ later.flatMap fun p => p.1 ++ p.2
  gaps_eq : later.map Prod.fst = gaps t
  gap : ∀ p ∈ later, p.1 ≠ [] ∧ isAllBlank p.1 = true
  word : ∀ word ∈ first :: later.map Prod.snd, hasBlank word = false
  inner_ne_nil : ∀ p ∈ later.dropLast, p.2 ≠ []
  first_eq_nil_iff : first = [] ↔ t = [] ∨ t.head?.any isBlank = true
  last_eq_nil_iff : (first :: later.map Prod.snd).getLast? = some [] ↔ t = [] ∨ t.getLast?.any isBlank = true

theorem isWordsAndGaps_of_not_hasBlank (h : hasBlank t = false) : IsWordsAndGaps t t [] where
  text_eq := (List.append_nil t).symm
  gaps_eq := (Text.gaps_of_not_hasBlank h).symm
  gap := nofun
  word := List.forall_mem_singleton.mpr h
  inner_ne_nil := nofun
  first_eq_nil_iff := by
    cases t with
    | nil => decide
    | cons c cs =>
      have hc := Text.hasBlank_eq_false_iff.mp h c List.mem_cons_self
      simp [hc]
  last_eq_nil_iff := by
    cases hlast : t.getLast? with
    | none => simp [List.getLast?_eq_none_iff.mp hlast]
    | some c =>
      have hc := Text.hasBlank_eq_false_iff.mp h c (List.mem_of_mem_getLast? hlast)
      simp [hc]

/-- A word and a gap may be put in front. -/
theorem IsWordsAndGaps.word_append {first : Text} {later : List (Text × Text)} (h : IsWordsAndGaps rest first later)
    (hword : hasBlank word = false) (hne : gap ≠ []) (hgap : isAllBlank gap = true)
    (hrest : rest.head?.any isBlank = false) :
    IsWordsAndGaps (word ++ gap ++ rest) word ((gap, first) :: later) where
  text_eq := by
    rw [List.flatMap_cons, List.append_assoc, List.append_assoc, ← h.text_eq]
  gaps_eq := by
    rw [List.map_cons, h.gaps_eq, Text.gaps_word_append hword hne hgap hrest]
  gap := List.forall_mem_cons.mpr ⟨⟨hne, hgap⟩, h.gap⟩
  word := List.forall_mem_cons.mpr ⟨hword, h.word⟩
  inner_ne_nil := by
    cases later with
    | nil => exact nofun
    | cons next later =>
      rw [List.dropLast_cons_cons]
      refine List.forall_mem_cons.mpr ⟨fun hfirst => ?_, h.inner_ne_nil⟩
      -- What follows the gap has a gap of its own and goes on with no white space, so its first word is not empty.
      rcases h.first_eq_nil_iff.mp hfirst with rfl | hblank
      · exact List.cons_ne_nil _ _ h.gaps_eq
      · rw [hrest] at hblank
        cases hblank
  first_eq_nil_iff := by
    obtain ⟨c, cs, rfl⟩ := List.exists_cons_of_ne_nil hne
    have hc : isBlank c = true := List.all_eq_true.mp hgap c List.mem_cons_self
    cases word with
    | nil => simp [hc]
    | cons d ds =>
      have hd := Text.hasBlank_eq_false_iff.mp hword d List.mem_cons_self
      simp [hd]
  last_eq_nil_iff := by
    rw [List.map_cons, List.getLast?_cons_cons, h.last_eq_nil_iff, List.getLast?_append, List.getLast?_append]
    cases hlast : rest.getLast? with
    | none =>
      rw [List.getLast?_eq_none_iff.mp hlast]
      cases hgapLast : gap.getLast? with
      | none => exact absurd (List.getLast?_eq_none_iff.mp hgapLast) hne
      | some c =>
        have hc : isBlank c = true := List.all_eq_true.mp hgap c (List.mem_of_getLast? hgapLast)
        simp [hc]
    | some c =>
      have hne' : rest ≠ [] := by
        rintro rfl
        cases hlast
      simp [hne, hne']

/-- The words of a text are its words with its gaps between them, and there is one more of them than there are gaps. -/
theorem splitWords_wordsAndGaps (t : Text) :
    ∃ first later, splitWords t = first :: later.map Prod.snd ∧ IsWordsAndGaps t first later ∧
      (splitWords t).length = (gaps t).length + 1 := by
  have h : ∃ first later, splitWords t = first :: later.map Prod.snd ∧ IsWordsAndGaps t first later := by
    induction t using Text.gap_induction with
    | word t ht => exact ⟨t, [], splitWords_of_not_hasBlank ht, isWordsAndGaps_of_not_hasBlank ht⟩
    | gap word gap rest hword hne hgap hrest ih =>
      obtain ⟨first, later, hwords, hsplit⟩ := ih
      refine ⟨word, (gap, first) :: later, ?_, hsplit.word_append hword hne hgap hrest⟩
      rw [splitWords_word_append hword hne hgap hrest, hwords, List.map_cons]
  obtain ⟨first, later, hwords, hsplit⟩ := h
  refine ⟨first, later, hwords, hsplit, ?_⟩
  rw [hwords, ← hsplit.gaps_eq, List.length_cons, List.length_map, List.length_map]

/-- White space of several kinds is one gap, and gaps at both ends leave empty words there. -/
example : splitWords "\u2003\ta \u00a0b\n".toList = ["", "a", "b", ""].map String.toList := by decide

end Tokens

end Wording
