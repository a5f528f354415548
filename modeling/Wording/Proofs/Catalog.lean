import Wording.Catalog
import Wording.Proofs.Tokens.JavaScript
import Wording.Proofs.Tokens.Python
import Wording.Proofs.Tokens.TypeScript

/-! # What the built-in parsers take from a text

None of the built-in parsers gives up on a text. Their lines are the lines of the text, their strings and comments are
pieces of it, and their identifiers remain of it with the comments between marks erased; `TakenFrom` holds these facts
together. Each parser goes with the pattern that it erases comments by, `builtinErasers`, so that what is proved of the
three languages is used as one statement about every parser of the built-in catalog.
-/

set_option autoImplicit false

namespace Wording

namespace Tokens

/-- How tokens come from a text with an eraser of comments: lines are those of the text, strings and comments
are pieces of it, and identifiers remain of it. -/
structure TakenFrom (tokens : Tokens) (erase : Text → Text) (t : Text) : Prop where
  lines_eq : tokens.lines = Text.lines t
  infix_strings : ∀ string ∈ tokens.strings, string <:+: t
  infix_comments : ∀ comment ∈ tokens.comments, comment <:+: t
  identifiers_ne : ∀ name ∈ tokens.identifiers, name ≠ [] ∧ '\n' ∉ name
  identifiers_remain : ∀ name ∈ tokens.identifiers, Remains erase t name

end Tokens

namespace Parser

/-- The eraser of the comments between marks that belongs to a built-in parser. -/
def builtinErasers : List (Parser × (Text → Text)) :=
  [(.javaScript, Tokens.JavaScript.eraseBlocks), (.typeScript, Tokens.JavaScript.eraseBlocks),
   (.python, Tokens.Python.eraseBlocks)]

theorem map_fst_builtinErasers : builtinErasers.map Prod.fst = Catalog.builtin.parsers := rfl

/-- A built-in parser answers tokens that it takes from the text. -/
theorem exists_tokens_of_mem_builtinErasers {parser : Parser} {erase : Text → Text}
    (h : (parser, erase) ∈ builtinErasers) (t : Text) :
    ∃ tokens, parser.parse t = .ok tokens ∧ tokens.TakenFrom erase t := by
  simp only [builtinErasers, List.mem_cons, Prod.mk.injEq, List.not_mem_nil, or_false] at h
  rcases h with ⟨rfl, rfl⟩ | ⟨rfl, rfl⟩ | ⟨rfl, rfl⟩
  · refine ⟨_, rfl, rfl, ?_, ?_, ?_, ?_⟩
    · exact fun _ => Tokens.infix_of_mem_quotedLiterals
    · exact fun _ => Tokens.JavaScript.infix_of_mem_comments
    · exact fun _ => Tokens.JavaScript.ne_lineFeed_of_mem_identifiers
    · exact fun _ => Tokens.JavaScript.remains_of_mem_identifiers
  · refine ⟨_, rfl, rfl, ?_, ?_, ?_, ?_⟩
    · exact fun _ => Tokens.infix_of_mem_quotedLiterals
    · exact fun _ => Tokens.JavaScript.infix_of_mem_comments
    · exact fun _ => Tokens.TypeScript.ne_lineFeed_of_mem_identifiers
    · exact fun _ => Tokens.TypeScript.remains_of_mem_identifiers
  · refine ⟨_, rfl, rfl, ?_, ?_, ?_, ?_⟩
    · exact fun _ => Tokens.Python.infix_of_mem_strings
    · exact fun _ => Tokens.Python.infix_of_mem_comments
    · exact fun _ => Tokens.Python.ne_lineFeed_of_mem_identifiers
    · exact fun _ => Tokens.Python.remains_of_mem_identifiers

/-- A parser of the built-in catalog answers tokens that it takes from the text. -/
theorem exists_tokens_of_mem_builtin {parser : Parser} (h : parser ∈ Catalog.builtin.parsers)
    (t : Text) : ∃ erase tokens, parser.parse t = .ok tokens ∧ tokens.TakenFrom erase t := by
  rw [← map_fst_builtinErasers] at h
  obtain ⟨⟨_, erase⟩, hmem, rfl⟩ := List.mem_map.mp h
  exact ⟨erase, exists_tokens_of_mem_builtinErasers hmem t⟩

/-- A parser of the built-in catalog answers each identifier once. -/
theorem nodup_identifiers_of_mem_builtin {parser : Parser} (h : parser ∈ Catalog.builtin.parsers) {t : Text}
    {tokens : Tokens} (hparse : parser.parse t = .ok tokens) : tokens.identifiers.Nodup := by
  rw [← map_fst_builtinErasers] at h
  simp only [builtinErasers, List.map_cons, List.map_nil, List.mem_cons, List.not_mem_nil, or_false] at h
  -- Each language reads its names by keeping first occurrences last of all.
  rcases h with rfl | rfl | rfl
  · cases hparse
    exact (Text.isFirstSeen_firstSeen _).nodup
  · cases hparse
    exact (Text.isFirstSeen_firstSeen _).nodup
  · cases hparse
    exact (Text.isFirstSeen_firstSeen _).nodup

end Parser

end Wording
