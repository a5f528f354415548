import Wording.Tokens.JavaScript
import Wording.Proofs.Tokens.Comment
import Wording.Proofs.Tokens.Literal
import Wording.Proofs.Tokens.Name

/-! # The tokens of JavaScript as pieces of the source

Literals and comments are pieces of the text as it is. An identifier is what remains of a piece of the text from which
block comments are erased: it stands in the text as it is unless a block comment stands inside it. Line comments are
erased to the line end and put nothing together, since a name holds no line feed. All patterns of names answer texts in
name characters (`NamePiece`), which is the only thing that is needed of them here.
-/

set_option autoImplicit false

namespace Wording.Tokens.JavaScript

variable {t u name : Text}

/-- Every shape in which names are found answers names. -/
theorem namePatterns_yield : ∀ p ∈ namePatterns, p.Yields (dollarAlphabet.isName · = true) := by
  have hdeclared : declared.Yields (dollarAlphabet.isName · = true) := by
    intro before t hit h
    rw [declared] at h
    split at h
    · cases h
    · exact dollarAlphabet.afterWord_yields _ before t hit h
  simp only [namePatterns, List.forall_mem_cons]
  exact ⟨hdeclared, dollarAlphabet.afterWord_yields _, dollarAlphabet.afterWord_yields _,
    dollarAlphabet.afterPoint_yields, dollarAlphabet.beforeMark_yields ':',
    dollarAlphabet.beforeMark_yields '(', List.forall_mem_nil _⟩

/-- Names that are not empty pieces of a text and hold name characters only. -/
structure NamePiece (t name : Text) : Prop where
  ne_nil : name ≠ []
  later : ∀ c ∈ name, dollarAlphabet.later c = true
  piece : name <:+: t

/-- What patterns of names collect are pieces of the text in name characters. -/
theorem namePiece_of_mem_collectNames {patterns : List Pattern} {isKeyword : Text → Bool}
    {commasSeparate : Bool} (hpatterns : ∀ p ∈ patterns, p.Yields (dollarAlphabet.isName · = true))
    (h : name ∈ collectNames patterns isKeyword commasSeparate t) : NamePiece t name := by
  have hlater : ∀ p ∈ patterns, p.Yields fun piece => ∀ c ∈ piece, dollarAlphabet.later c = true :=
    fun p hp => (hpatterns p hp).mono fun _ hname _ hc =>
      Alphabet.later_of_mem_name (fun _ => dollarAlphabet_later_of_first) hname hc
  obtain ⟨hne, hmember, hinfix⟩ := infix_of_mem_collectNames hlater h
  exact ⟨hne, hmember, hinfix⟩

theorem namePiece_of_mem_identifiersWithout {words : List Text}
    (h : name ∈ identifiersWithout words t) : NamePiece t name :=
  namePiece_of_mem_collectNames namePatterns_yield h

theorem NamePiece.ne_lineFeed (h : NamePiece t name) : ∀ c ∈ name, c ≠ '\n' := by
  rintro c hc rfl
  exact absurd (h.later _ hc) (by decide)

/-- The text without its block comments. -/
def eraseBlocks (t : Text) : Text := (between "/*".toList "*/".toList).erasing.replace t

/-- Pieces without a line feed of the text without comments are pieces of the text without block
comments. -/
theorem infix_eraseBlocks (hu : ∀ c ∈ u, c ≠ '\n') (h : u <:+: stripComments t) : u <:+: eraseBlocks t :=
  (toLineEnd_erasing_steady (by decide)).infix_of_infix_replace (toLineEnd_erasing_bars _) hu h

/-- A name in the text without comments remains of the text with its block comments erased. -/
theorem NamePiece.remains (h : NamePiece (stripComments t) name) : Remains eraseBlocks t name :=
  remains_of_infix_replace (between_erasing_erases (by decide) _) h.ne_nil
    (infix_eraseBlocks h.ne_lineFeed h.piece)

/-- An identifier of a source remains of the source with its block comments erased. -/
theorem remains_of_mem_identifiers (h : name ∈ (tokens t).identifiers) : Remains eraseBlocks t name :=
  (namePiece_of_mem_identifiersWithout h).remains

theorem ne_lineFeed_of_mem_identifiers (h : name ∈ (tokens t).identifiers) :
    name ≠ [] ∧ '\n' ∉ name := by
  have hpiece : NamePiece (stripComments t) name := namePiece_of_mem_identifiersWithout h
  exact ⟨hpiece.ne_nil, fun hmem => hpiece.ne_lineFeed _ hmem rfl⟩

theorem infix_of_mem_comments {comment : Text} (h : comment ∈ comments t) : comment <:+: t := by
  rcases List.mem_append.mp h with h | h
  · exact infix_of_mem_lineComments h
  · exact infix_of_mem_blockComments h

end Wording.Tokens.JavaScript
