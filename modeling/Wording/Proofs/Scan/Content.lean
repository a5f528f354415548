import Wording.Scan.Scanner
import Wording.Proofs.Catalog
import Wording.Proofs.Finding.Locate

/-! # How a scanner comes to its report on a text

A scanner reads a text, which the settings have no part in, and then counts and searches the tokens that it read; a text
of no known language counts as one whose words are its strings. A finding of the report is a finding of one of the kinds
of tokens that the settings let count. A text is refused for its size only beyond the size limit of the scanner.

A scanner searches with its matcher, which is kept beside the settings. `InStep` is that the matcher is the one of the
settings; a new scanner is in step, and one that is given other settings is again. What is proved of reports is proved
of `Settings.search`, and holds of a scanner that is in step (`scanContent_eq`, `scanText_eq`).
-/

set_option autoImplicit false

namespace Wording

/-- That the matcher of a scanner is the one of its settings. -/
def Scanner.InStep (s : Scanner) : Prop := s.matcher = s.settings.matcher

theorem Scanner.inStep_new (settings : Settings) (catalog : Catalog) (sizeLimit : Int) (excluded : List Text) :
    (new settings catalog sizeLimit excluded).InStep :=
  rfl

theorem Scanner.inStep_withSettings (s : Scanner) (settings : Settings) : (s.withSettings settings).InStep :=
  rfl

/-- The number of tokens that count and the findings in them, by the matcher of the settings themselves. -/
def Settings.search (s : Settings) (tokens : Tokens) : Nat × List Finding := Scanner.scanTokens s.matcher s tokens

/-- Whether settings let a kind of token count. -/
def Settings.counts (s : Settings) : TokenKind → Bool
  | .identifier => s.includeIdentifiers
  | .string => s.includeStrings
  | .comment => s.includeComments

theorem Settings.filter_findings_kind {s : Settings} {kind : TokenKind} {tokens lines : List Text}
    (choice : TokenKind → Bool) :
    (s.matcher.findings kind tokens lines).filter (fun f => choice f.kind) =
      if choice kind then s.matcher.findings kind tokens lines else [] := by
  have hkind : ∀ f ∈ s.matcher.findings kind tokens lines, f.kind = kind :=
    fun f hf => (mem_findings_iff.mp hf).1.1
  split
  next hchosen =>
    apply List.filter_eq_self.mpr
    intro f hf
    rw [hkind f hf, hchosen]
  next hchosen =>
    apply List.filter_eq_nil_iff.mpr
    intro f hf
    rw [hkind f hf]
    exact hchosen

namespace Tokens

/-- The tokens of one kind. -/
def ofKind (tokens : Tokens) : TokenKind → List Text
  | .identifier => tokens.identifiers
  | .string => tokens.strings
  | .comment => tokens.comments

/-- Strings and comments are pieces of the text that they are taken from. -/
theorem TakenFrom.infix_ofKind {tokens : Tokens} {erase : Text → Text} {t : Text}
    (h : tokens.TakenFrom erase t) {kind : TokenKind} (hkind : kind ≠ .identifier) :
    ∀ token ∈ tokens.ofKind kind, token <:+: t := by
  cases kind with
  | identifier => exact absurd rfl hkind
  | string => exact h.infix_strings
  | comment => exact h.infix_comments

/-- The tokens of a text of no known language: its words, as strings. -/
def ofWords (t : Text) : Tokens := ⟨[], splitWords t, [], Text.lines t⟩

end Tokens

namespace Scanner

/-- All kinds of tokens, in the order of reports. -/
def kinds : List TokenKind := [.identifier, .string, .comment]

theorem mem_kinds (kind : TokenKind) : kind ∈ kinds := by
  cases kind <;> decide

/-- The kinds of tokens that count, with their tokens, are those that the settings let count. -/
theorem countedTokens_eq (settings : Settings) (tokens : Tokens) :
    countedTokens settings tokens =
      (kinds.filter settings.counts).map fun kind => (kind, tokens.ofKind kind) := by
  unfold countedTokens kinds
  cases hi : settings.includeIdentifiers <;> cases hs : settings.includeStrings <;>
    cases hc : settings.includeComments <;>
    simp only [List.filterMap_cons, List.filterMap_nil, List.filter_cons, List.filter_nil,
      Settings.counts, hi, hs, hc, Bool.false_eq_true, if_true, if_false] <;> rfl

/-- The findings of a text are those of the tokens of each kind that counts. -/
theorem mem_search_iff {settings : Settings} {tokens : Tokens} {f : Finding} :
    f ∈ (settings.search tokens).2 ↔
      settings.counts f.kind = true ∧
        f ∈ settings.matcher.findings f.kind (tokens.ofKind f.kind) tokens.lines := by
  simp only [Settings.search, scanTokens, countedTokens_eq, List.flatMap_map, List.mem_flatMap, List.mem_filter]
  constructor
  · rintro ⟨kind, ⟨-, hcounts⟩, hf⟩
    obtain rfl : f.kind = kind := (Settings.mem_findings_iff.mp hf).1.1
    exact ⟨hcounts, hf⟩
  · rintro ⟨hcounts, hf⟩
    exact ⟨f.kind, ⟨mem_kinds f.kind, hcounts⟩, hf⟩

/-- The findings of a text are those of each kind that counts, one kind after the other. -/
theorem search_findings_eq (s : Settings) (tokens : Tokens) :
    (s.search tokens).2 =
      (kinds.filter s.counts).flatMap fun kind => s.matcher.findings kind (tokens.ofKind kind) tokens.lines := by
  simp only [Settings.search, scanTokens, countedTokens_eq, List.flatMap_map]

/-- Of the findings of a text, those of some kinds are those of the tokens of these kinds, if they count. -/
theorem filter_search_kinds (s : Settings) (tokens : Tokens) (choice : TokenKind → Bool) :
    (s.search tokens).2.filter (fun f => choice f.kind) =
      ((kinds.filter s.counts).filter choice).flatMap fun kind =>
        s.matcher.findings kind (tokens.ofKind kind) tokens.lines := by
  rw [search_findings_eq]
  induction kinds.filter s.counts with
  | nil => rfl
  | cons kind rest ih =>
    rw [List.flatMap_cons, List.filter_append, ih, Settings.filter_findings_kind, List.filter_cons]
    split
    · rw [List.flatMap_cons]
    · rw [List.nil_append]

theorem filter_kind_search (s : Settings) (tokens : Tokens) (kind : TokenKind) :
    (s.search tokens).2.filter (·.kind = kind) =
      if s.counts kind then s.matcher.findings kind (tokens.ofKind kind) tokens.lines else [] := by
  rw [filter_search_kinds s tokens (· = kind)]
  simp only [kinds, List.filter_cons, List.filter_nil]
  cases kind <;> cases s.counts .identifier <;> cases s.counts .string <;> cases s.counts .comment <;>
    simp

/-- Words are counted and searched as the strings of a text with nothing else in it. -/
theorem scanWords_eq (matcher : Matcher) (settings : Settings) (content : Text) :
    scanWords matcher settings content = scanTokens matcher settings (Tokens.ofWords content) := by
  unfold scanWords scanTokens countedTokens Tokens.ofWords
  cases settings.includeIdentifiers <;> cases settings.includeStrings <;>
    cases settings.includeComments <;> simp [Matcher.findings]

/-- How a scanner reads a text under a name: the language that it reports and the tokens. -/
def reading (s : Scanner) (name content : Text) : Except ScanError (Text × Tokens) :=
  if s.sizeLimit < content.length then .error (.tooLarge name content.length s.sizeLimit)
  else
    match s.catalog.parser? (s.catalog.detect name content) with
    | none => .ok (Catalog.plainText, Tokens.ofWords content)
    | some parser =>
      match parser.parse content with
      | .error message => .error (.parserGaveUp message)
      | .ok tokens => .ok (s.catalog.detect name content, tokens)

/-- The report of settings on a text that was read. -/
def reportOn (settings : Settings) (now : Number.Quantity) (name path : Text)
    (read : Text × Tokens) : FileReport :=
  let total := (settings.search read.2).1
  let findings := (settings.search read.2).2
  { path := path
    name := name
    language := read.1
    totalElements := total
    biasedElements := findings.length
    biasPercentage := Number.percentage findings.length total
    estimatedFixTime := findings.length * settings.timePerFix
    findings := findings
    lastScanned := now
    error := [] }

/-- A scan reads a text and reports on what it read. -/
theorem scanContent_eq {s : Scanner} (hs : s.InStep) (now : Number.Quantity) (name path content : Text) :
    s.scanContent now name path content =
      (s.reading name content).map (reportOn s.settings now name path) := by
  have hmatcher : s.matcher = s.settings.matcher := hs
  unfold scanContent reading
  split
  · rfl
  · simp only [scanWords_eq, hmatcher]
    cases s.catalog.parser? (s.catalog.detect name content) with
    | none => rfl
    | some parser => cases hparse : parser.parse content <;> simp only [hparse] <;> rfl

/-- A scan of a text in memory reads the text and reports on it under its name. -/
theorem scanText_eq {s : Scanner} (hs : s.InStep) (around : Surroundings) (name content : Text) :
    s.scanText around name content =
      (s.reading name content).map (reportOn s.settings around.now name name) :=
  scanContent_eq hs around.now name name content

/-- A scan of a source reads its text and reports on it under the name and at the path of the source. -/
theorem scanSource_of_read {s : Scanner} (hs : s.InStep) {around : Surroundings} {source : Source} {content : Text}
    (h : source.read around.disk = .ok content) :
    s.scanSource around source =
      (s.reading source.name content).map
        (reportOn s.settings around.now source.name source.displayPath) := by
  rw [← scanContent_eq hs, scanSource, h]
  rfl

/-- The tokens that are read from a text are its words, or the answer of a parser of the catalog. -/
theorem ofWords_or_parse_of_reading {s : Scanner} {name content : Text} {read : Text × Tokens}
    (h : s.reading name content = .ok read) :
    read.2 = Tokens.ofWords content ∨ ∃ parser ∈ s.catalog.parsers, parser.parse content = .ok read.2 := by
  rw [reading] at h
  split at h
  · cases h
  · split at h
    · cases h
      exact .inl rfl
    next parser hparser =>
      split at h
      · cases h
      next tokens hparse =>
        cases h
        exact .inr ⟨parser, List.mem_of_find?_eq_some hparser, hparse⟩

/-- With the built-in parsers a text is only refused for its size, and its lines are those of the text. -/
theorem reading_of_builtin {s : Scanner} (hcatalog : s.catalog = Catalog.builtin) (name content : Text) :
    (s.sizeLimit < content.length ∧
      s.reading name content = .error (.tooLarge name content.length s.sizeLimit)) ∨
    ∃ language tokens, s.reading name content = .ok (language, tokens) ∧
      tokens.lines = Text.lines content := by
  by_cases hsize : s.sizeLimit < content.length
  · exact Or.inl ⟨hsize, if_pos hsize⟩
  · refine Or.inr ?_
    rw [reading, if_neg hsize]
    cases hparser : s.catalog.parser? (s.catalog.detect name content) with
    | none => exact ⟨_, _, rfl, rfl⟩
    | some parser =>
      have hmem : parser ∈ Catalog.builtin.parsers := hcatalog ▸ List.mem_of_find?_eq_some hparser
      obtain ⟨erase, tokens, hparse, htaken⟩ := Parser.exists_tokens_of_mem_builtin hmem content
      simp only [hparse]
      exact ⟨_, tokens, rfl, htaken.lines_eq⟩

/-- That a scanner refuses every source with a text that is not empty, for its size. -/
def RefusesAll (s : Scanner) : Prop :=
  ∀ (around : Surroundings) (source : Source) (content : Text), source.read around.disk = .ok content → content ≠ [] →
    s.scanSource around source = .error (.tooLarge source.name content.length s.sizeLimit)

theorem scanSource_of_tooLarge {s : Scanner} {around : Surroundings} {source : Source} {content : Text}
    (hread : source.read around.disk = .ok content) (h : s.sizeLimit < content.length) :
    s.scanSource around source = .error (.tooLarge source.name content.length s.sizeLimit) := by
  rw [scanSource, hread]
  exact if_pos h

theorem scanText_ne_tooLarge {s : Scanner} {content : Text} (h : (content.length : Int) ≤ s.sizeLimit)
    (around : Surroundings) (name : Text) {size : Nat} {limit : Int} :
    s.scanText around name content ≠ .error (.tooLarge name size limit) := by
  have hscan : s.scanText around name content = s.scanContent around.now name name content := rfl
  rw [hscan, scanContent, if_neg (Int.not_lt.mpr h)]
  dsimp only
  split
  · exact nofun
  · split <;> exact nofun

/-- A scanner refuses every text that is not empty when its size limit is not positive. -/
theorem refusesAll_iff {s : Scanner} : s.RefusesAll ↔ s.sizeLimit ≤ 0 := by
  constructor
  · intro h
    refine Int.not_lt.mp fun hpositive => ?_
    have hfits : ((['x'] : Text).length : Int) ≤ s.sizeLimit := hpositive
    exact scanText_ne_tooLarge hfits ⟨⟨.folder [], []⟩, .binary (Number.Binary.zero false)⟩ []
      (h _ ⟨[], some ['x'], none⟩ ['x'] rfl (List.cons_ne_nil _ _))
  · intro h around source content hread hcontent
    have hlength : 0 < content.length := List.length_pos_iff.mpr hcontent
    exact scanSource_of_tooLarge hread (by omega)

end Scanner

end Wording
