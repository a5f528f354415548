import Wording.Tokens.TypeScript
import Wording.Proofs.Tokens.Annotation
import Wording.Proofs.Tokens.JavaScript

/-!
The tokens of TypeScript as pieces of the source. Annotations are replaced by marks and blanks, which no
name holds, so a name that is read behind their removal is a piece of the text in front of it, and
identifiers remain of the source just as those of JavaScript do.
-/

set_option autoImplicit false

namespace Wording.Tokens.TypeScript

open JavaScript (NamePiece eraseBlocks)

variable {t name : Text}

/-- A name in the text without comments and annotations is one in the text without comments. -/
theorem namePiece_stripComments (h : NamePiece (stripCommentsAndTypes t) name) :
    NamePiece (JavaScript.stripComments t) name := by
  have hsemicolon := (annotated_steady ';' [';']).infix_of_infix_replace
    (annotated_bars (by decide) (List.any_eq_false.mp rfl)) h.later h.piece
  have hequals := (annotated_steady '=' [' ', '=', ' ']).infix_of_infix_replace
    (annotated_bars (by decide) (List.any_eq_false.mp rfl)) h.later hsemicolon
  exact ⟨h.ne_nil, h.later, hequals⟩

/-- Every shape in which types are declared answers names. -/
theorem typePatterns_yield : ∀ p ∈ typePatterns, p.Yields (dollarAlphabet.isName · = true) := by
  intro p hp
  obtain ⟨word, -, rfl⟩ := List.mem_map.mp hp
  exact dollarAlphabet.afterWord_yields _

theorem namePiece_of_mem_identifiers (h : name ∈ identifiers t) : NamePiece t name := by
  rw [identifiers, Text.mem_firstSeen_iff] at h
  rcases List.mem_append.mp h with h | h
  · exact JavaScript.namePiece_of_mem_identifiersWithout h
  · exact JavaScript.namePiece_of_mem_collectNames typePatterns_yield h

/-- An identifier of a source remains of the source with its block comments erased. -/
theorem remains_of_mem_identifiers (h : name ∈ (tokens t).identifiers) : Remains eraseBlocks t name :=
  (namePiece_stripComments (namePiece_of_mem_identifiers h)).remains

theorem ne_lineFeed_of_mem_identifiers (h : name ∈ (tokens t).identifiers) :
    name ≠ [] ∧ '\n' ∉ name := by
  have hpiece : NamePiece (stripCommentsAndTypes t) name := namePiece_of_mem_identifiers h
  exact ⟨hpiece.ne_nil, fun hmem => hpiece.ne_lineFeed _ hmem rfl⟩

end Wording.Tokens.TypeScript
