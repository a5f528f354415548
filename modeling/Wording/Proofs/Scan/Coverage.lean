import Wording.Settings.Builtin
import Wording.Proofs.Text.Lines
import Wording.Proofs.Scan.Content

/-! # What a scan does not miss

When letter case matters, a token that counts and holds a term of the settings is reported at exactly the lines that
hold the token. A token between whose parts nothing was cut out has such a line unless it runs over the end of one:
strings and comments are pieces of the text, so they are reported at some line exactly if no line feed stands in them.

An identifier is read behind the removal of comments, and then it may stand in no line because a comment stood inside of
it. It stands in the text, or remains of a piece of the text that holds a comment (`stands_or_joins_of_takenFrom`), and
no third case is left.
-/

set_option autoImplicit false

namespace Wording

namespace Scanner

/-- The lines at which findings of a kind report a token with a term. -/
def reportedLines (findings : List Finding) (kind : TokenKind) (token : Text) (term : Term) : List Int :=
  (findings.filter fun f => f.kind = kind ∧ f.content = token ∧ f.term = term).map (·.line)

variable {settings : Settings} {tokens : Tokens} {kind : TokenKind} {token : Text} {term : Term}

/-- When letter case matters, a token that counts is reported with each of its terms at exactly the lines
that hold the token. -/
theorem mem_reportedLines_iff (hs : settings.caseSensitive = true)
    (hcounts : settings.counts kind = true) (htoken : token ∈ tokens.ofKind kind)
    (hterm : term ∈ settings.matcher.reportedTerms kind token) (n : Int) :
    n ∈ reportedLines (settings.search tokens).2 kind token term ↔
      ∃ (place : Nat) (line : Text), n = place + 1 ∧ tokens.lines[place]? = some line ∧
        token <:+: line := by
  have hholds := (Settings.mem_terms_of_mem_reportedTerms hterm).2
  have hne : token ≠ [] :=
    Term.ne_nil_of_text_isInfix ((Settings.holds_iff_of_caseSensitive hs).mp hholds)
  have hfold : ∀ line : Text, settings.matcher.fold token <:+: settings.matcher.fold line ↔ token <:+: line := by
    intro line
    rw [Settings.fold_of_caseSensitive hs, Settings.fold_of_caseSensitive hs]
  unfold reportedLines
  simp only [List.mem_map, List.mem_filter, decide_eq_true_eq, mem_search_iff,
    Settings.mem_findings_iff]
  constructor
  · rintro ⟨f, ⟨⟨-, -, -, place, line, column, hpoints⟩, rfl, rfl, rfl⟩, rfl⟩
    refine ⟨place, line, hpoints.line_eq, hpoints.line_at, ?_⟩
    rw [← hfold line, ← Text.exists_firstAt_iff]
    exact ⟨column, hpoints.first⟩
  · rintro ⟨place, line, rfl, hat, hline⟩
    have hpoint : ∃ f column, (f.kind = kind ∧ f.content = token ∧ f.term = term) ∧
        settings.PointsTo tokens.lines f place line column :=
      (Settings.exists_pointsTo_iff hat).mpr ((hfold line).mpr hline)
    obtain ⟨f, column, ⟨rfl, rfl, rfl⟩, hpoints⟩ := hpoint
    refine ⟨f, ⟨⟨hcounts, ?_⟩, rfl, rfl, rfl⟩, hpoints.line_eq⟩
    exact ⟨⟨trivial, htoken, hne⟩, hterm, place, line, column, hpoints⟩

/-- When letter case matters, a token that counts is reported with each of its terms somewhere exactly when
some line holds the token. -/
theorem reportedLines_ne_nil_iff (hs : settings.caseSensitive = true)
    (hcounts : settings.counts kind = true) (htoken : token ∈ tokens.ofKind kind)
    (hterm : term ∈ settings.matcher.reportedTerms kind token) :
    reportedLines (settings.search tokens).2 kind token term ≠ [] ↔
      ∃ line ∈ tokens.lines, token <:+: line := by
  constructor
  · intro h
    obtain ⟨n, hn⟩ := List.exists_mem_of_ne_nil _ h
    obtain ⟨place, line, -, hat, hline⟩ := (mem_reportedLines_iff hs hcounts htoken hterm n).mp hn
    exact ⟨line, List.mem_of_getElem? hat, hline⟩
  · rintro ⟨line, hmem, hline⟩
    obtain ⟨place, hat⟩ := List.mem_iff_getElem?.mp hmem
    exact List.ne_nil_of_mem
      ((mem_reportedLines_iff hs hcounts htoken hterm _).mpr ⟨place, line, rfl, hat, hline⟩)

/-- When letter case matters, a token that counts and holds a term of the settings is reported exactly when
some line holds the token. -/
theorem exists_finding_iff (hs : settings.caseSensitive = true)
    (hcounts : settings.counts kind = true) (htoken : token ∈ tokens.ofKind kind)
    (hterm : term ∈ settings.terms) (hheld : term.text <:+: token) :
    (∃ f ∈ (settings.search tokens).2, f.kind = kind ∧ f.content = token) ↔
      ∃ line ∈ tokens.lines, token <:+: line := by
  constructor
  · rintro ⟨f, hf, rfl, rfl⟩
    obtain ⟨-, hfinding⟩ := mem_search_iff.mp hf
    obtain ⟨-, -, place, line, column, hpoints⟩ := Settings.mem_findings_iff.mp hfinding
    have hstands : settings.matcher.fold f.content <:+: settings.matcher.fold line :=
      Text.exists_firstAt_iff.mp ⟨column, hpoints.first⟩
    rw [Settings.fold_of_caseSensitive hs, Settings.fold_of_caseSensitive hs] at hstands
    exact ⟨line, List.mem_of_getElem? hpoints.line_at, hstands⟩
  · intro hline
    have hholds : settings.matcher.holds token term = true :=
      (Settings.holds_iff_of_caseSensitive hs).mpr hheld
    -- An identifier may report another term than the given one, the first that it holds.
    obtain ⟨reported, hreported⟩ : ∃ reported, reported ∈ settings.matcher.reportedTerms kind token :=
      Settings.exists_mem_reportedTerms hterm hholds
    have hlines := (reportedLines_ne_nil_iff hs hcounts htoken hreported).mpr hline
    obtain ⟨n, hn⟩ := List.exists_mem_of_ne_nil _ hlines
    obtain ⟨f, hf, -⟩ := List.mem_map.mp hn
    obtain ⟨hmem, hmatch⟩ := List.mem_filter.mp hf
    obtain ⟨hkind, hcontent, -⟩ := of_decide_eq_true hmatch
    exact ⟨f, hmem, hkind, hcontent⟩

/-- When letter case matters, a built-in parser's strings and comments that hold a term are reported with it
at exactly the lines of the text that hold them, and they have such a line exactly when they hold no line
feed. -/
theorem reportedLines_of_builtin_eq (settings : Settings) (hs : settings.caseSensitive = true)
    (parser : Parser) (hparser : parser ∈ Catalog.builtin.parsers) (content : Text) :
    ∃ tokens, parser.parse content = .ok tokens ∧
      ∀ kind, kind ≠ .identifier → settings.counts kind = true →
        ∀ token ∈ tokens.ofKind kind, ∀ term ∈ settings.terms, term.text <:+: token →
          (∀ n, n ∈ reportedLines (settings.search tokens).2 kind token term ↔
            ∃ (place : Nat) (line : Text), n = place + 1 ∧
              (Text.lines content)[place]? = some line ∧ token <:+: line) ∧
          (reportedLines (settings.search tokens).2 kind token term ≠ [] ↔ '\n' ∉ token) := by
  obtain ⟨erase, tokens, hparse, htaken⟩ := Parser.exists_tokens_of_mem_builtin hparser content
  refine ⟨tokens, hparse, fun kind hkind hcounts token htoken term hmem hheld => ?_⟩
  have hterm : term ∈ settings.matcher.reportedTerms kind token :=
    (Settings.mem_reportedTerms_iff hkind).mpr ⟨hmem, (Settings.holds_iff_of_caseSensitive hs).mpr hheld⟩
  rw [← htaken.lines_eq]
  refine ⟨mem_reportedLines_iff hs hcounts htoken hterm, ?_⟩
  rw [reportedLines_ne_nil_iff hs hcounts htoken hterm, htaken.lines_eq, Text.exists_line_iff]
  constructor
  · intro h
    exact h.2
  · intro h
    exact ⟨htaken.infix_ofKind hkind token htoken, h⟩

/-- A string is reported at its own line and at that of a comment that holds it too. -/
theorem reportedLines_of_builtin_eq_man :
    ∃ tokens, Parser.javaScript.parse "f('man')\n// woman".toList = .ok tokens ∧
      ∃ term ∈ Settings.builtin.terms,
        1 ∈ reportedLines (Settings.search { Settings.builtin with caseSensitive := true } tokens).2
          .string "man".toList term ∧
        2 ∈ reportedLines (Settings.search { Settings.builtin with caseSensitive := true } tokens).2
          .string "man".toList term := by
  obtain ⟨tokens, hparse, h⟩ := reportedLines_of_builtin_eq
    { Settings.builtin with caseSensitive := true } rfl Parser.javaScript List.mem_cons_self
    "f('man')\n// woman".toList
  have htoken : "man".toList ∈ tokens.strings := by
    cases hparse
    decide
  obtain ⟨hlines, -⟩ := h .string (by decide) rfl "man".toList htoken _ List.mem_cons_self
    List.infix_rfl
  refine ⟨tokens, hparse, _, List.mem_cons_self, ?_, ?_⟩
  · rw [hlines]
    exact ⟨0, "f('man')".toList, rfl, by decide, Text.contains_iff.mp (by decide)⟩
  · rw [hlines]
    exact ⟨1, "// woman".toList, rfl, by decide, Text.contains_iff.mp (by decide)⟩

/-- An identifier that was taken from a text stands in one of its lines, or else it joins what an eraser of
comments leaves of a longer piece of the text, which begins and ends like it. -/
theorem stands_or_joins_of_takenFrom {erase : Text → Text} {t : Text}
    (h : tokens.TakenFrom erase t) {name : Text} (hname : name ∈ tokens.identifiers) :
    (∃ line ∈ tokens.lines, name <:+: line) ∨
      ∃ piece, piece <:+: t ∧ piece ≠ name ∧ erase piece = name ∧ piece.head? = name.head? ∧
        piece.getLast? = name.getLast? := by
  obtain ⟨-, hfeed⟩ := h.identifiers_ne name hname
  obtain ⟨piece, hpiece, hleft, hends⟩ := h.identifiers_remain name hname
  by_cases hstands : name <:+: t
  · apply Or.inl
    rw [h.lines_eq, Text.exists_line_iff]
    exact ⟨hstands, hfeed⟩
  · refine Or.inr ⟨piece, hpiece, ?_, hleft, hends⟩
    rintro rfl
    exact hstands hpiece

/-- Every identifier of a built-in parser stands in a line of the text, unless it joins the parts of a piece
of the text from whose inside the parser's eraser cut comments between marks. When letter case matters, an
identifier that holds a term of the settings is reported exactly when it stands in a line. -/
theorem identifiers_of_builtin_stand_or_join (parser : Parser)
    (hparser : parser ∈ Catalog.builtin.parsers) (content : Text) :
    ∃ erase tokens, (parser, erase) ∈ Parser.builtinErasers ∧ parser.parse content = .ok tokens ∧
      tokens.lines = Text.lines content ∧
      ∀ name ∈ tokens.identifiers,
        ((∃ line ∈ tokens.lines, name <:+: line) ∨
          ∃ piece, piece <:+: content ∧ piece ≠ name ∧ erase piece = name ∧
            piece.head? = name.head? ∧ piece.getLast? = name.getLast?) ∧
        ∀ settings : Settings, settings.caseSensitive = true → settings.includeIdentifiers = true →
          ∀ term ∈ settings.terms, term.text <:+: name →
            ((∃ f ∈ (settings.search tokens).2, f.kind = .identifier ∧ f.content = name) ↔
              ∃ line ∈ tokens.lines, name <:+: line) := by
  rw [← Parser.map_fst_builtinErasers] at hparser
  obtain ⟨⟨_, erase⟩, hmem, rfl⟩ := List.mem_map.mp hparser
  obtain ⟨tokens, hparse, htaken⟩ := Parser.exists_tokens_of_mem_builtinErasers hmem content
  refine ⟨erase, tokens, hmem, hparse, htaken.lines_eq, fun name hname => ⟨?_, ?_⟩⟩
  · exact stands_or_joins_of_takenFrom htaken hname
  · intro settings hs hcounts term hterm hheld
    have htoken : name ∈ tokens.ofKind .identifier := hname
    exact exists_finding_iff hs hcounts htoken hterm hheld

/-- An identifier without a comment in it is reported. -/
theorem identifiers_of_builtin_stand_or_join_master :
    ∃ tokens, Parser.javaScript.parse "let /* old */ master".toList = .ok tokens ∧
      ∃ f ∈ (Settings.search { Settings.builtin with caseSensitive := true } tokens).2,
        f.kind = .identifier ∧ f.content = "master".toList := by
  obtain ⟨erase, tokens, -, hparse, hlines, h⟩ := identifiers_of_builtin_stand_or_join
    Parser.javaScript List.mem_cons_self "let /* old */ master".toList
  have hname : "master".toList ∈ tokens.identifiers := by
    cases hparse
    decide
  have hstands : ∃ line ∈ tokens.lines, "master".toList <:+: line := by
    simp only [hlines, ← Text.contains_iff]
    decide
  have hterm : ∃ term ∈ Settings.builtin.terms, term.text <:+: "master".toList := by
    simp only [← Text.contains_iff]
    decide
  obtain ⟨-, hreports⟩ := h "master".toList hname
  obtain ⟨term, hmem, hheld⟩ := hterm
  have hfound := hreports { Settings.builtin with caseSensitive := true } rfl rfl term hmem hheld
  exact ⟨tokens, hparse, hfound.mpr hstands⟩

/-- An identifier with a comment in it stands in no line and is not reported. -/
theorem identifier_around_comment_not_reported :
    "slave".toList ∈ (Tokens.JavaScript.tokens "sla/**/ve()".toList).identifiers ∧
      (∀ line ∈ (Tokens.JavaScript.tokens "sla/**/ve()".toList).lines, ¬ "slave".toList <:+: line) ∧
      (∃ term ∈ Settings.builtin.terms, term.text <:+: "slave".toList) ∧
      (Settings.search { Settings.builtin with caseSensitive := true }
        (Tokens.JavaScript.tokens "sla/**/ve()".toList)).2 = [] := by
  simp only [← Text.contains_iff]
  refine ⟨?_, ?_, ?_, ?_⟩ <;> decide

end Scanner

end Wording
