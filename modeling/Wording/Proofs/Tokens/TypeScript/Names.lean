import Wording.Proofs.Tokens.Occurrence
import Wording.Proofs.Tokens.TypeScript

/-! # The identifiers of TypeScript beside those of JavaScript

Both languages look for names in the same shapes, so the reading with more reserved words is the other one with the
further words sorted out, whether that is done before or behind keeping each name once (`filter_firstSeen`); and the
names of type declarations follow, as far as they are new. Those stand behind a word that declares a type, and hold no
other character than names do.
-/

set_option autoImplicit false

namespace Wording.Tokens

open Text (isBlank)

/-! ## Behind a word -/

/-- A name stands behind a word and white space, up to its end. -/
def StandsBehindWord (a : Alphabet) (word name t : Text) : Prop :=
  ∃ front gap rest, t = front ++ (word ++ (gap ++ (name ++ rest))) ∧ gap ≠ [] ∧ (∀ c ∈ gap, isBlank c = true) ∧
    ∀ c ∈ rest.head?, a.later c = false

theorem Alphabet.standsBehindWord_of_mem_pieces {a : Alphabet} {words : List Text} {name t : Text}
    (h : name ∈ (a.afterWord words).pieces t) : ∃ word ∈ words, StandsBehindWord a word name t := by
  obtain ⟨before, place, hit, ⟨front, rfl⟩, hhit, rfl⟩ := Pattern.exists_hit_of_mem_piecesFrom h
  obtain ⟨word, hword, htaken⟩ := List.exists_of_findSome?_eq_some hhit
  simp only [Option.bind_eq_bind, Option.bind_eq_some_iff, pure, Option.some.injEq, Text.dropBeginning?_eq_some_iff]
    at htaken
  obtain ⟨behind, rfl, start, hstart, ⟨name, rest⟩, hname, rfl⟩ := htaken
  obtain ⟨gap, hne, hgap, rfl⟩ := exists_of_skipSomeBlanks? hstart
  obtain ⟨-, rfl, hstop⟩ := takeName?_eq_some_iff.mp hname
  exact ⟨word, hword, front, gap, rest, rfl, hne, hgap, hstop⟩

/-! ## Free names -/

/-- Different names of an alphabet, none of which is a word of a list, letter case aside. -/
structure Alphabet.FreeNames (a : Alphabet) (words names : List Text) : Prop where
  nodup : names.Nodup
  isName : ∀ name ∈ names, a.isName name = true
  free : ∀ name ∈ names, Text.lower name ∉ words

/-- What patterns of names collect are free names. -/
theorem Alphabet.Solid.freeNames_collectNames {a : Alphabet} (ha : a.Solid) {patterns : List Pattern}
    (hpatterns : ∀ p ∈ patterns, p.Yields (a.isName · = true)) (words : List Text) (t : Text) :
    a.FreeNames words (collectNames patterns (JavaScript.isAmong words) false t) := by
  rw [ha.collectNames_eq hpatterns]
  refine ⟨(Text.isFirstSeen_firstSeen _).nodup, fun name hname => ?_, fun name hname hword => ?_⟩
  all_goals obtain ⟨hmem, hfree⟩ := List.mem_filter.mp (Text.mem_firstSeen_iff.mp hname)
  · obtain ⟨p, hp, hpiece⟩ := List.mem_flatMap.mp hmem
    exact ((hpatterns p hp).of_mem_pieces hpiece).1
  · rw [JavaScript.isAmong, List.contains_iff_mem.mpr hword] at hfree
    cases hfree

namespace TypeScript

open JavaScript (isAmong identifiersWithout)

variable {t name : Text}

/-! ## Reserved words -/

/-- The words that TypeScript reserves, those that JavaScript reserves too included. -/
def reservedWords : List Text := ["abstract", "boolean"].map String.toList ++ ownKeywords

theorem mem_keywords_iff {word : Text} : word ∈ keywords ↔ word ∈ JavaScript.keywords ∨ word ∈ reservedWords := by
  have hshared : ∀ word ∈ ["abstract", "boolean"].map String.toList, word ∈ JavaScript.keywords := by decide
  rw [keywords, reservedWords, List.mem_append, List.mem_append]
  constructor
  · exact Or.imp_right Or.inr
  · rintro (hword | hword | hword)
    · exact .inl hword
    · exact .inl (hshared word hword)
    · exact .inr hword

/-! ## The identifiers of JavaScript -/

/-- The identifiers of JavaScript that TypeScript does not reserve. -/
def keptIdentifiers (t : Text) : List Text :=
  (JavaScript.identifiers t).filter fun name => Text.lower name ∉ reservedWords

/-- With more reserved words, the names of the further words are sorted out. -/
theorem identifiersWithout_keywords (t : Text) : identifiersWithout keywords t = keptIdentifiers t := by
  have hsorted : ∀ name, (!isAmong keywords name) =
      (decide (Text.lower name ∉ reservedWords) && !isAmong JavaScript.keywords name) := fun name => by
    rw [Bool.eq_iff_iff]
    simp [isAmong, mem_keywords_iff, and_comm]
  rw [keptIdentifiers, JavaScript.identifiers, identifiersWithout, identifiersWithout,
    dollarAlphabet_solid.collectNames_eq JavaScript.namePatterns_yield,
    dollarAlphabet_solid.collectNames_eq JavaScript.namePatterns_yield, Text.filter_firstSeen, List.filter_filter]
  simp only [hsorted]

/-! ## Type declarations -/

/-- The names of type declarations in a text. -/
def declaredTypes (t : Text) : List Text := collectNames typePatterns isKeyword false t

/-- The name of a type declaration stands behind the word that declares it. -/
theorem standsBehindWord_of_mem_declaredTypes (h : name ∈ declaredTypes t) :
    ∃ word ∈ ["interface", "type", "enum", "namespace"].map String.toList,
      StandsBehindWord dollarAlphabet word name t := by
  rw [declaredTypes, dollarAlphabet_solid.collectNames_eq typePatterns_yield, Text.mem_firstSeen_iff] at h
  obtain ⟨p, hp, hpiece⟩ := List.mem_flatMap.mp (List.mem_filter.mp h).1
  obtain ⟨word, hword, rfl⟩ := List.mem_map.mp hp
  obtain ⟨_, hmem, hstands⟩ := Alphabet.standsBehindWord_of_mem_pieces hpiece
  rw [List.mem_singleton.mp hmem] at hstands
  exact ⟨_, List.mem_map_of_mem hword, hstands⟩

/-- The identifiers are those of JavaScript that are kept and then the names of type declarations that are new. -/
theorem identifiers_eq (t : Text) :
    identifiers t = keptIdentifiers t ++ (declaredTypes t).filter (· ∉ keptIdentifiers t) := by
  have hkept : (keptIdentifiers t).Nodup := (Text.isFirstSeen_firstSeen _).nodup.filter _
  have hdeclared : (declaredTypes t).Nodup := (Text.isFirstSeen_firstSeen _).nodup
  rw [identifiers, identifiersWithout_keywords, ← declaredTypes, Text.firstSeen_append, Text.firstSeen_of_nodup hkept,
    Text.firstSeen_of_nodup hdeclared]
  simp only [List.contains_eq_mem, decide_not]

/-- TypeScript reads the identifiers of JavaScript that it does not reserve, in their order, and behind them names that
are not among these and stand behind a word that declares a type. In both languages identifiers are different names of
the alphabet, none of them reserved, letter case aside. -/
theorem identifiers_refine (t : Text) :
    (∃ further, identifiers t = keptIdentifiers t ++ further ∧
      ∀ name ∈ further, name ∉ keptIdentifiers t ∧
        ∃ word ∈ ["interface", "type", "enum", "namespace"].map String.toList,
          StandsBehindWord dollarAlphabet word name t) ∧
    dollarAlphabet.FreeNames JavaScript.keywords (JavaScript.identifiers t) ∧
    dollarAlphabet.FreeNames (JavaScript.keywords ++ reservedWords) (identifiers t) := by
  have hscript := dollarAlphabet_solid.freeNames_collectNames JavaScript.namePatterns_yield
  have htypes := dollarAlphabet_solid.freeNames_collectNames typePatterns_yield keywords t
  refine ⟨⟨_, identifiers_eq t, fun name hname => ?_⟩, hscript JavaScript.keywords t, ?_⟩
  · obtain ⟨hdeclared, hnew⟩ := List.mem_filter.mp hname
    exact ⟨of_decide_eq_true hnew, standsBehindWord_of_mem_declaredTypes hdeclared⟩
  · have hmem : ∀ name ∈ identifiers t, name ∈ identifiersWithout keywords t ∨ name ∈ declaredTypes t :=
      fun name hname => List.mem_append.mp (Text.mem_firstSeen_iff.mp hname)
    refine ⟨(Text.isFirstSeen_firstSeen _).nodup, fun name hname => ?_, fun name hname hword => ?_⟩
    · exact (hmem name hname).elim ((hscript keywords t).isName name) (htypes.isName name)
    · have hreserved := mem_keywords_iff.mpr (List.mem_append.mp hword)
      exact (hmem name hname).elim ((hscript keywords t).free name · hreserved) (htypes.free name · hreserved)

/-- A reserved name falls out, and a declared name that was read before stays at its first place. -/
example :
    JavaScript.identifiers "let any = a.Master; type Slave = Master; type Master = string".toList =
        ["any", "Master"].map String.toList ∧
      identifiers "let any = a.Master; type Slave = Master; type Master = string".toList =
        ["Master", "Slave"].map String.toList := by
  decide +kernel

end TypeScript

end Wording.Tokens
