import Wording.Proofs.Tokens.Division
import Wording.Proofs.Tokens.Literal

/-! # Literals between quotation marks

A body can stand between two marks when each mark in it, and each backslash, stands behind a backslash (`IsBody`); a
literal is exactly such a body between its marks (`quoted_eq_some_iff`). Escaping makes a body of every text, so a text
that is put together of literals and of what stands between them is read back into the same literals, and taking the
backslashes off gives the texts that were escaped (`unescape_escape`).

Literals of one kind of marks are read from the whole text by themselves. That the other kinds find nothing in it is a
premise on what stands between the literals and in them, `Division.QuotedBy`, as nothing in the reading keeps the kinds
apart.
-/

set_option autoImplicit false

namespace Wording.Tokens

variable {quote : Char} {t body rest : Text} {before : Option Char} {hit : Hit}

/-! ## Bodies -/

/-- A body of a literal: characters that are neither a mark nor a backslash, and backslashes with the character behind
them, which is no line feed. -/
inductive IsBody (quote : Char) : Text → Prop
  | nil : IsBody quote []
  | plain {c : Char} {cs : Text} : c ≠ quote → c ≠ '\\' → IsBody quote cs → IsBody quote (c :: cs)
  | escaped {c : Char} {cs : Text} : c ≠ '\n' → IsBody quote cs → IsBody quote ('\\' :: c :: cs)

theorem isBody_of_literalBody? (h : literalBody? quote t = some (body, rest)) : IsBody quote body := by
  fun_induction literalBody? quote t generalizing body with
  | case1 => cases h
  | case2 =>
    cases h
    exact .nil
  | case3 => cases h
  | case4 =>
    cases h
    exact .nil
  | case5 => cases h
  | case6 d cs hfeed _ ih =>
    obtain ⟨⟨inner, behind⟩, hinner, heq⟩ := Option.map_eq_some_iff.mp h
    cases heq
    exact .escaped hfeed (ih hinner)
  | case7 c d cs hmark hslash ih =>
    obtain ⟨⟨inner, behind⟩, hinner, heq⟩ := Option.map_eq_some_iff.mp h
    cases heq
    exact .plain hmark hslash (ih hinner)

theorem literalBody?_append (hquote : quote ≠ '\\') (h : IsBody quote body) (rest : Text) :
    literalBody? quote (body ++ quote :: rest) = some (body, rest) := by
  induction h with
  | nil => cases rest <;> simp [literalBody?]
  | @plain c cs hmark hslash _ ih =>
    obtain ⟨d, ds, hds⟩ : ∃ d ds, cs ++ quote :: rest = d :: ds :=
      List.exists_cons_of_ne_nil (List.append_ne_nil_of_right_ne_nil cs (List.cons_ne_nil _ _))
    rw [hds] at ih
    rw [List.cons_append, hds, literalBody?, if_neg hmark, if_neg hslash, ih]
    rfl
  | @escaped c cs hfeed _ ih =>
    rw [List.cons_append, List.cons_append, literalBody?, if_neg hquote.symm, if_pos rfl, if_neg hfeed, ih]
    rfl

/-- A literal is exactly a body between two marks. -/
theorem quoted_eq_some_iff (hquote : quote ≠ '\\') :
    quoted quote before t = some hit ↔ IsBody quote hit.piece ∧ t = quote :: (hit.piece ++ quote :: hit.rest) := by
  simp only [quoted, Option.bind_eq_bind, Option.bind_eq_some_iff, Text.dropBeginning?_eq_some_iff, pure,
    Option.some.injEq]
  constructor
  · rintro ⟨behind, rfl, ⟨body, rest⟩, hbody, rfl⟩
    exact ⟨isBody_of_literalBody? hbody, by rw [eq_append_of_literalBody? hbody, List.singleton_append]⟩
  · rintro ⟨hbody, rfl⟩
    exact ⟨_, rfl, _, literalBody?_append hquote hbody hit.rest, rfl⟩

theorem IsBody.head_ne (hquote : quote ≠ '\\') (h : IsBody quote body) : ∀ c ∈ body.head?, c ≠ quote := by
  cases h with
  | nil => exact fun c hc => by cases hc
  | plain hmark _ _ =>
    intro c hc
    rwa [← Option.some.inj hc]
  | escaped _ _ =>
    intro c hc
    rw [← Option.some.inj hc]
    exact hquote.symm

/-- No two marks stand side by side in a body. -/
theorem IsBody.not_infix (hquote : quote ≠ '\\') (h : IsBody quote body) : ¬ [quote, quote] <:+: body := by
  induction h with
  | nil => exact fun hnil => absurd (List.infix_nil.mp hnil) (List.cons_ne_nil _ _)
  | plain hmark _ _ ih =>
    intro hpair
    rcases List.infix_cons_iff.mp hpair with hpair | hpair
    · exact hmark (List.cons_prefix_cons.mp hpair).1.symm
    · exact ih hpair
  | @escaped c cs _ hcs ih =>
    intro hpair
    rcases List.infix_cons_iff.mp hpair with hpair | hpair
    · exact hquote (List.cons_prefix_cons.mp hpair).1
    · -- A mark behind a backslash is followed by a body, which begins with no mark.
      rcases List.infix_cons_iff.mp hpair with hpair | hpair
      · obtain ⟨more, rfl⟩ := (List.cons_prefix_cons.mp hpair).2
        exact hcs.head_ne hquote quote rfl rfl
      · exact ih hpair

/-! ## Texts of literals -/

/-- Literals are taken from a text from left to right. -/
theorem quoted_steady (hquote : quote ≠ '\\') : (quoted quote).Steady where
  ignores _ _ := rfl
  takes := by
    intro t hit h
    obtain ⟨-, rfl⟩ := (quoted_eq_some_iff hquote).mp h
    exact ⟨quote :: (hit.piece ++ [quote]), List.cons_ne_nil _ _, by simp⟩

theorem pieces_quoted_append (hquote : quote ≠ '\\') {u : Text} (hu : quote ∉ u) (t : Text) :
    (quoted quote).pieces (u ++ t) = (quoted quote).pieces t := by
  induction u with
  | nil => rfl
  | cons c cs ih =>
    obtain ⟨hc, hcs⟩ := not_or.mp (List.mem_cons.not.mp hu)
    have hmiss : quoted quote none (c :: (cs ++ t)) = none := by
      refine Option.eq_none_iff_forall_ne_some.mpr fun hit hhit => hc ?_
      exact (List.cons.inj ((quoted_eq_some_iff hquote).mp hhit).2).1.symm
    rw [List.cons_append, (quoted_steady hquote).pieces_of_miss hmiss, ih hcs]

theorem pieces_quoted_of_notMem (hquote : quote ≠ '\\') (ht : quote ∉ t) : (quoted quote).pieces t = [] := by
  have hnone := pieces_quoted_append hquote ht []
  rwa [List.append_nil] at hnone

/-- From a text that is divided at literals, these are read, in their order. -/
theorem pieces_quoted_whole (hquote : quote ≠ '\\') {d : Division} (houtside : quote ∉ d.outside)
    (hbodies : ∀ body ∈ d.bodies, IsBody quote body) : (quoted quote).pieces (d.whole [quote] [quote]) = d.bodies := by
  obtain ⟨segments, last⟩ := d
  induction segments with
  | nil => exact pieces_quoted_of_notMem hquote houtside
  | cons s more ih =>
    have hwhole : (Division.mk (s :: more) last).whole [quote] [quote] =
        s.before ++ quote :: (s.body ++ quote :: (Division.mk more last).whole [quote] [quote]) := by
      simp [Division.whole]
    have hout : quote ∉ s.before ∧ quote ∉ (Division.mk more last).outside := by
      simpa [Division.outside, not_or] using houtside
    obtain ⟨hbody, hmore⟩ := List.forall_mem_cons.mp hbodies
    have hhit : quoted quote none (quote :: (s.body ++ quote :: (Division.mk more last).whole [quote] [quote])) =
        some ⟨s.body, (Division.mk more last).whole [quote] [quote]⟩ :=
      (quoted_eq_some_iff hquote).mpr ⟨hbody, rfl⟩
    rw [hwhole, pieces_quoted_append hquote hout.1, (quoted_steady hquote).pieces_of_hit hhit, ih hout.2 hmore]
    rfl

/-! ## Escaping -/

/-- A text with a backslash before each backslash and each mark. -/
def escape (quote : Char) (t : Text) : Text := t.flatMap fun c => if c = '\\' ∨ c = quote then ['\\', c] else [c]

/-- A text without the backslashes that stand before another character. -/
def unescape : Text → Text
  | '\\' :: c :: cs => c :: unescape cs
  | c :: cs => c :: unescape cs
  | [] => []

theorem escape_cons_of_special {c : Char} (h : c = '\\' ∨ c = quote) (cs : Text) :
    escape quote (c :: cs) = '\\' :: c :: escape quote cs := by
  rw [escape, List.flatMap_cons, if_pos h]
  rfl

theorem escape_cons_of_plain {c : Char} (h : ¬ (c = '\\' ∨ c = quote)) (cs : Text) :
    escape quote (c :: cs) = c :: escape quote cs := by
  rw [escape, List.flatMap_cons, if_neg h]
  rfl

/-- An escaped text is a body. -/
theorem isBody_escape (hquote : quote ≠ '\n') (t : Text) : IsBody quote (escape quote t) := by
  induction t with
  | nil => exact .nil
  | cons c cs ih =>
    by_cases h : c = '\\' ∨ c = quote
    · have hfeed : c ≠ '\n' := by
        rcases h with rfl | rfl
        · decide
        · exact hquote
      rw [escape_cons_of_special h]
      exact .escaped hfeed ih
    · rw [escape_cons_of_plain h]
      exact .plain (fun hmark => h (.inr hmark)) (fun hslash => h (.inl hslash)) ih

/-- Taking the backslashes off undoes escaping. -/
theorem unescape_escape (quote : Char) (t : Text) : unescape (escape quote t) = t := by
  induction t with
  | nil => rfl
  | cons c cs ih =>
    by_cases h : c = '\\' ∨ c = quote
    · rw [escape_cons_of_special h, unescape, ih]
    · have hslash : c ≠ '\\' := fun hslash => h (.inl hslash)
      rw [escape_cons_of_plain h, unescape.eq_2 _ _ fun _ _ heq => absurd heq hslash, ih]

theorem mem_of_mem_escape {c : Char} (h : c ∈ escape quote t) : c = '\\' ∨ c ∈ t := by
  obtain ⟨d, hd, hc⟩ := List.mem_flatMap.mp h
  split at hc
  · rcases List.mem_cons.mp hc with rfl | hc
    · exact .inl rfl
    · exact .inr (List.mem_singleton.mp hc ▸ hd)
  · exact .inr (List.mem_singleton.mp hc ▸ hd)

/-! ## Quoted texts -/

/-- The marks that literals are read between. -/
def quotationMarks : List Char := ['"', '\'', '`']

theorem mem_quotationMarks_iff : quote ∈ quotationMarks ↔ quote = '"' ∨ quote = '\'' ∨ quote = '`' := by
  simp [quotationMarks]

theorem ne_of_mem_quotationMarks (h : quote ∈ quotationMarks) : quote ≠ '\\' ∧ quote ≠ '\n' := by
  obtain rfl | rfl | rfl := mem_quotationMarks_iff.mp h <;> decide

/-- Texts that are put between marks of one kind, and what stands between them: none of these marks stands there, and no
mark of another kind anywhere. -/
structure Division.QuotedBy (quote : Char) (d : Division) : Prop where
  mark : quote ∈ quotationMarks
  outside : quote ∉ d.outside
  others : ∀ other ∈ quotationMarks, other ≠ quote → other ∉ d.outside ∧ ∀ body ∈ d.bodies, other ∉ body

/-- The same division with each body escaped. -/
def Division.escaped (quote : Char) (d : Division) : Division :=
  ⟨d.segments.map fun s => ⟨s.before, escape quote s.body⟩, d.last⟩

namespace Division

variable {d : Division} {c : Char}

theorem outside_escaped (quote : Char) (d : Division) : (d.escaped quote).outside = d.outside := by
  simp only [outside, escaped, List.flatMap_map]

theorem bodies_escaped (quote : Char) (d : Division) : (d.escaped quote).bodies = d.bodies.map (escape quote) := by
  simp only [bodies, escaped, List.map_map, Function.comp_def]

/-- What stands in the whole text stands outside, in a body or in a mark. -/
theorem mem_of_mem_whole {opening closing : Text} (h : c ∈ d.whole opening closing) :
    c ∈ d.outside ∨ (∃ body ∈ d.bodies, c ∈ body) ∨ c ∈ opening ∨ c ∈ closing := by
  rcases List.mem_append.mp h with h | h
  · obtain ⟨s, hs, hc⟩ := List.mem_flatMap.mp h
    simp only [List.mem_append] at hc
    obtain ((hc | hc) | hc) | hc := hc
    · exact .inl (List.mem_append_left _ (List.mem_flatMap.mpr ⟨s, hs, hc⟩))
    · exact .inr (.inr (.inl hc))
    · exact .inr (.inl ⟨s.body, List.mem_map_of_mem hs, hc⟩)
    · exact .inr (.inr (.inr hc))
  · exact .inl (List.mem_append_right _ h)

theorem QuotedBy.other_notMem (h : d.QuotedBy quote) {other : Char} (hother : other ∈ quotationMarks)
    (hne : other ≠ quote) : other ∉ (d.escaped quote).whole [quote] [quote] := by
  intro hmem
  obtain ⟨houtside, hbodies⟩ := h.others other hother hne
  rcases mem_of_mem_whole hmem with hmem | ⟨read, hread, hmem⟩ | hmem | hmem
  · exact houtside (outside_escaped quote d ▸ hmem)
  · rw [bodies_escaped] at hread
    obtain ⟨body, hbody, rfl⟩ := List.mem_map.mp hread
    rcases mem_of_mem_escape hmem with rfl | hmem
    · exact absurd hother (by decide)
    · exact hbodies body hbody hmem
  · exact hne (List.mem_singleton.mp hmem)
  · exact hne (List.mem_singleton.mp hmem)

end Division

/-- Of marks of one kind, exactly the escaped bodies are read, whatever the other kinds would find. -/
theorem pieces_quoted_escaped (hquote : quote ∈ quotationMarks) {d : Division} (houtside : quote ∉ d.outside) :
    (quoted quote).pieces ((d.escaped quote).whole [quote] [quote]) = d.bodies.map (escape quote) := by
  obtain ⟨hslash, hfeed⟩ := ne_of_mem_quotationMarks hquote
  have hbodies : ∀ body ∈ (d.escaped quote).bodies, IsBody quote body := by
    rw [Division.bodies_escaped, List.forall_mem_map]
    exact fun body _ => isBody_escape hfeed body
  rw [pieces_quoted_whole hslash (by rwa [Division.outside_escaped]) hbodies, Division.bodies_escaped]

/-- Literals of one kind of marks are read back: from escaped texts between such marks, with text around them that holds
none of these marks, the escaped texts are read, in their order and each as often as it stands there, and taking off the
backslashes gives the texts. -/
theorem quotedLiterals_of_escaped {quote : Char} {d : Division} (h : d.QuotedBy quote) :
    quotedLiterals ((d.escaped quote).whole [quote] [quote]) = d.bodies.map (escape quote) ∧
      (quotedLiterals ((d.escaped quote).whole [quote] [quote])).map unescape = d.bodies := by
  have hown := pieces_quoted_escaped h.mark h.outside
  have hother : ∀ other ∈ quotationMarks, other ≠ quote →
      (quoted other).pieces ((d.escaped quote).whole [quote] [quote]) = [] := fun other hmark hne =>
    pieces_quoted_of_notMem (ne_of_mem_quotationMarks hmark).1 (h.other_notMem hmark hne)
  have hread : quotedLiterals ((d.escaped quote).whole [quote] [quote]) = d.bodies.map (escape quote) := by
    simp only [quotationMarks, List.forall_mem_cons] at hother
    obtain rfl | rfl | rfl := mem_quotationMarks_iff.mp h.mark <;> simp [quotedLiterals, hown, hother]
  refine ⟨hread, ?_⟩
  rw [hread, List.map_map]
  exact List.map_id'' (fun body => unescape_escape quote body) _

/-- Between single quotes: a text with a mark and backslashes in it, one that ends with a backslash, an empty one, and
one over two lines that stands there twice. -/
theorem quotedLiterals_of_escaped_lines :
    let d : Division :=
      ⟨[⟨"f(".toList, "it's \\n".toList⟩, ⟨", ".toList, "c:\\".toList⟩, ⟨", ".toList, []⟩,
        ⟨" + ".toList, "a\nb".toList⟩, ⟨[], "a\nb".toList⟩], ")\n".toList⟩
    let content := "f('it\\'s \\\\n', 'c:\\\\', '' + 'a\nb''a\nb')\n".toList
    d.QuotedBy '\'' ∧ (d.escaped '\'').whole ['\''] ['\''] = content ∧
      quotedLiterals content =
        ["it\\'s \\\\n".toList, "c:\\\\".toList, [], "a\nb".toList, "a\nb".toList] ∧
      (quotedLiterals content).map unescape =
        ["it's \\n".toList, "c:\\".toList, [], "a\nb".toList, "a\nb".toList] := by
  intro d content
  have hquoted : d.QuotedBy '\'' := by
    refine ⟨by decide, by decide, fun other hother hne => ?_⟩
    obtain rfl | rfl | rfl := mem_quotationMarks_iff.mp hother
    · decide
    · exact absurd rfl hne
    · decide
  have hcontent : (d.escaped '\'').whole ['\''] ['\''] = content := by decide
  obtain ⟨hread, htexts⟩ := quotedLiterals_of_escaped hquoted
  rw [hcontent] at hread htexts
  exact ⟨hquoted, hcontent, hread, htexts⟩

end Wording.Tokens
