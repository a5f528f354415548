import Wording.Proofs.Text.Blank
import Wording.Proofs.Tokens.Python

/-!
The identifiers of Python sources as names. All shapes but one are read as whole names, which are no keywords. Only a
list that is imported is read as a whole and taken apart behind the look for keywords, so that an alias in it stays one
identifier with white space, and a keyword between its commas an identifier. Where no list holds either of them, all
identifiers are names.
-/

set_option autoImplicit false

namespace Wording.Tokens.Python

open Text (hasBlank isBlank)

variable {t u name list : Text} {c : Char}

/-! ## Characters -/

theorem isBlank_of_path (h : pathAlphabet.later c = true) : isBlank c = false := by
  simp only [pathAlphabet, Bool.or_eq_true, decide_eq_true_eq] at h
  rcases h with hplain | rfl
  · have hdollar : dollarAlphabet.later c = true := by simp only [dollarAlphabet, hplain, Bool.true_or]
    exact Text.isBlank_of_visible (visible_of_dollarAlphabet hdollar)
  · decide

/-- A character of a list that is neither white space nor a comma may stand in a path. -/
theorem path_of_list (h : listAlphabet.later c = true) (hblank : isBlank c = false) (hcomma : c ≠ ',') :
    pathAlphabet.later c = true := by
  simp only [listAlphabet, pathAlphabet, Bool.or_eq_true, decide_eq_true_eq] at h ⊢
  obtain ((hplain | rfl) | rfl) | rfl := h
  · exact Or.inl hplain
  · exact absurd rfl hcomma
  · cases hblank
  · cases hblank

theorem pathAlphabet_solid : pathAlphabet.Solid := ⟨pathAlphabet_later_of_first, fun _ => isBlank_of_path⟩

theorem hasBlank_and_comma_of_path (h : pathAlphabet.isName name = true) :
    hasBlank name = false ∧ ',' ∉ name := by
  refine ⟨pathAlphabet_solid.not_hasBlank h, fun hmem => ?_⟩
  exact absurd (Alphabet.later_of_mem_name pathAlphabet_later_of_first h hmem) (by decide)

theorem path_of_plain (h : plainAlphabet.isName name = true) : pathAlphabet.isName name = true := by
  cases name with
  | nil => cases h
  | cons c cs =>
    simp only [Alphabet.isName, Bool.and_eq_true, List.all_eq_true] at h ⊢
    refine ⟨h.1, fun d hd => ?_⟩
    simp only [pathAlphabet, h.2 d hd, Bool.true_or]

/-! ## Names of pieces -/

/-- The names that an imported list stands for: the trimmed parts between its commas that have something in them, or
the list itself if it has no comma and is no keyword. -/
def listedNames (list : Text) : List Text := (namesOf isKeyword true list).filter (· ≠ [])

/-- A path stands for itself, unless it is a keyword. -/
theorem mem_namesOf_path (hpath : pathAlphabet.isName u = true) :
    name ∈ namesOf isKeyword true u ↔ name = u ∧ isKeyword u = false := by
  rw [pathAlphabet_solid.namesOf_name (fun _ => by decide) hpath]
  cases isKeyword u <;> simp

/-- A name that is listed has something in it but no comma, and nothing but the characters of lists. -/
theorem of_mem_listedNames (hlist : listAlphabet.isName list = true) (h : name ∈ listedNames list) :
    name ≠ [] ∧ ',' ∉ name ∧ ∀ c ∈ name, listAlphabet.later c = true := by
  obtain ⟨hmem, hne⟩ := List.mem_filter.mp h
  refine ⟨of_decide_eq_true hne, ?_, fun c hc => ?_⟩
  · simp only [namesOf] at hmem
    split at hmem
    · cases hmem
    · split at hmem
      · obtain ⟨part, hpart, rfl⟩ := List.mem_map.mp hmem
        exact fun hcomma => Text.separator_notMem_of_mem_splitOnChar hpart ((Text.trim_isInfix part).subset hcomma)
      next hcontains =>
        rw [List.mem_singleton.mp hmem]
        simpa using hcontains
  · exact Alphabet.later_of_mem_name listAlphabet_later_of_first hlist ((infix_of_mem_namesOf hmem).subset hc)

/-! ## Identifiers -/

/-- That a name is read from an import: it is the path that is imported, or one of the names that a list stands for. -/
def IsImported (u name : Text) : Prop :=
  name ∈ (pathAlphabet.afterWord ["import".toList]).pieces u ∨
    ∃ list ∈ importedList.pieces u, name ∈ listedNames list

/-- That an identifier of a text is a name and no keyword: a single name, or what is imported, made of letters, digits,
low lines and points alone. -/
structure IsProperName (u name : Text) : Prop where
  shape : plainAlphabet.isName name = true ∨
    (IsImported u name ∧ name ≠ [] ∧ ∀ c ∈ name, pathAlphabet.later c = true)
  notKeyword : isKeyword name = false

/-- All shapes in which names are found answer single names, but for the paths and the lists of imports. -/
theorem namePatterns_cases {p : Pattern} (hp : p ∈ namePatterns) :
    p.Yields (plainAlphabet.isName · = true) ∨ p = pathAlphabet.afterWord ["import".toList] ∨ p = importedList := by
  simp only [namePatterns, List.mem_cons, List.not_mem_nil, or_false] at hp
  obtain rfl | rfl | rfl | rfl | rfl | rfl | rfl | rfl | rfl := hp
  · exact .inl (plainAlphabet.afterWord_yields _)
  · exact .inl (plainAlphabet.beforeMark_yields '=')
  · exact .inl loopVariable_yields
  · exact .inl caughtException_yields
  · exact .inl boundContext_yields
  · exact .inr (.inl rfl)
  · exact .inr (.inr rfl)
  · exact .inl plainAlphabet.afterPoint_yields
  · exact .inl (plainAlphabet.beforeMark_yields '(')

/-- An identifier is what a piece of one of the shapes stands for, and has something in it. -/
theorem mem_identifiers_iff :
    name ∈ identifiers u ↔
      name ≠ [] ∧ ∃ p ∈ namePatterns, ∃ piece ∈ p.pieces u, name ∈ namesOf isKeyword true piece :=
  mem_collectNames_iff

theorem mem_identifiers_of_listed (hlist : list ∈ importedList.pieces u) (h : name ∈ listedNames list) :
    name ∈ identifiers u := by
  obtain ⟨hmem, hne⟩ := List.mem_filter.mp h
  have hpattern : importedList ∈ namePatterns := by simp [namePatterns]
  exact mem_identifiers_iff.mpr ⟨of_decide_eq_true hne, importedList, hpattern, list, hlist, hmem⟩

/-- An identifier is a name and no keyword, or listed in an import. -/
theorem isProperName_or_listed (h : name ∈ identifiers u) :
    IsProperName u name ∨ ∃ list ∈ importedList.pieces u, name ∈ listedNames list := by
  obtain ⟨hne, p, hp, piece, hpiece, hname⟩ := mem_identifiers_iff.mp h
  obtain hplain | rfl | rfl := namePatterns_cases hp
  · obtain ⟨hshape, -⟩ := hplain.of_mem_pieces hpiece
    obtain ⟨rfl, hkeyword⟩ := (mem_namesOf_path (path_of_plain hshape)).mp hname
    exact .inl ⟨.inl hshape, hkeyword⟩
  · obtain ⟨hshape, -⟩ := (pathAlphabet.afterWord_yields _).of_mem_pieces hpiece
    obtain ⟨rfl, hkeyword⟩ := (mem_namesOf_path hshape).mp hname
    have hlater : ∀ c ∈ name, pathAlphabet.later c = true := fun c hc =>
      Alphabet.later_of_mem_name pathAlphabet_later_of_first hshape hc
    exact .inl ⟨.inr ⟨.inl hpiece, hne, hlater⟩, hkeyword⟩
  · exact .inr ⟨piece, hpiece, List.mem_filter.mpr ⟨hname, decide_eq_true hne⟩⟩

/-- A listed name is a name and no keyword exactly if it has no white space and is no keyword. -/
theorem isProperName_iff_of_listed (hlist : list ∈ importedList.pieces u) (h : name ∈ listedNames list) :
    IsProperName u name ↔ hasBlank name = false ∧ isKeyword name = false := by
  obtain ⟨hshape, -⟩ := importedList_yields.of_mem_pieces hlist
  obtain ⟨hne, hcomma, hlater⟩ := of_mem_listedNames hshape h
  constructor
  · rintro ⟨hplain | ⟨-, -, hpath⟩, hkeyword⟩
    · exact ⟨(hasBlank_and_comma_of_path (path_of_plain hplain)).1, hkeyword⟩
    · exact ⟨List.any_eq_false.mpr fun c hc => by simp [isBlank_of_path (hpath c hc)], hkeyword⟩
  · rintro ⟨hblank, hkeyword⟩
    refine ⟨.inr ⟨.inr ⟨list, hlist, h⟩, hne, fun c hc => ?_⟩, hkeyword⟩
    have hcblank : isBlank c = false := by simpa using List.any_eq_false.mp hblank c hc
    refine path_of_list (hlater c hc) hcblank ?_
    rintro rfl
    exact hcomma hc

/-- The identifiers of a source differ from each other, have something in them and hold no comma. Each is a name and no
keyword, or is listed in an import. So all of them are names and no keywords exactly if no name that an import lists
has white space in it, as one with an alias has, or is a keyword. -/
theorem names_of_identifiers (t : Text) :
    let u := stripComments t
    let names := (tokens t).identifiers
    names.Nodup ∧ (∀ name ∈ names, name ≠ [] ∧ ',' ∉ name) ∧
      (∀ name ∈ names, IsProperName u name ∨ ∃ list ∈ importedList.pieces u, name ∈ listedNames list) ∧
      ((∀ name ∈ names, IsProperName u name) ↔
        ∀ list ∈ importedList.pieces u, ∀ name ∈ listedNames list,
          hasBlank name = false ∧ isKeyword name = false) := by
  intro u names
  have hcases : ∀ name ∈ names, IsProperName u name ∨ ∃ list ∈ importedList.pieces u, name ∈ listedNames list :=
    fun _ => isProperName_or_listed
  refine ⟨(Text.isFirstSeen_firstSeen _).nodup, fun name hname => ?_, hcases, ?_, ?_⟩
  · refine ⟨(mem_identifiers_iff.mp hname).1, ?_⟩
    obtain ⟨hplain | ⟨-, -, hpath⟩, -⟩ | ⟨list, hlist, hlisted⟩ := hcases name hname
    · exact (hasBlank_and_comma_of_path (path_of_plain hplain)).2
    · exact fun hcomma => absurd (hpath _ hcomma) (by decide)
    · obtain ⟨hshape, -⟩ := importedList_yields.of_mem_pieces hlist
      exact (of_mem_listedNames hshape hlisted).2.1
  · intro h list hlist name hname
    exact (isProperName_iff_of_listed hlist hname).mp (h name (mem_identifiers_of_listed hlist hname))
  · intro h name hname
    obtain hproper | ⟨list, hlist, hlisted⟩ := hcases name hname
    · exact hproper
    · exact (isProperName_iff_of_listed hlist hlisted).mpr (h list hlist name hlisted)

/-- A list that is imported with an alias is one identifier, with the white space around the alias, and a keyword
between its commas is an identifier. -/
theorem identifiers_of_alias_and_keyword :
    let aliased := "from m import a as b".toList
    let listed := "from m import a, class".toList
    (tokens aliased).identifiers = ["a".toList, "a as b".toList] ∧
      ¬ IsProperName (stripComments aliased) "a as b".toList ∧
      (tokens listed).identifiers = ["a".toList, "class".toList] ∧
      ¬ IsProperName (stripComments listed) "class".toList := by
  refine ⟨by decide +kernel, ?_, by decide +kernel, ?_⟩
  · rintro ⟨hplain | ⟨-, -, hpath⟩, -⟩
    · exact absurd hplain (by decide)
    · exact absurd (hpath ' ' (by decide)) (by decide)
  · rintro ⟨-, hkeyword⟩
    exact absurd hkeyword (by decide)

end Wording.Tokens.Python
