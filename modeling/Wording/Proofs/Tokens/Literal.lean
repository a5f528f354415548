import Wording.Tokens.Literal
import Wording.Proofs.Text.Search
import Wording.Proofs.Tokens.Pattern

/-!
Literals as pieces of the text. The body of a literal is what stands before its closing mark, so the body
and the whole literal are pieces of the text that they were read from.
-/

set_option autoImplicit false

namespace Wording.Tokens

/-- The text behind an opening mark is the body, the closing mark and the rest. -/
theorem eq_append_of_literalBody? {quote : Char} {t body rest : Text}
    (h : literalBody? quote t = some (body, rest)) : t = body ++ quote :: rest := by
  fun_induction literalBody? quote t generalizing body with
  | case1 => cases h
  | case2 =>
    cases h
    rfl
  | case3 => cases h
  | case4 =>
    cases h
    rfl
  | case5 => cases h
  | case6 d cs _ _ ih =>
    obtain ⟨⟨inner, behind⟩, hinner, heq⟩ := Option.map_eq_some_iff.mp h
    cases heq
    rw [ih hinner]
    rfl
  | case7 c d cs _ _ ih =>
    obtain ⟨⟨inner, behind⟩, hinner, heq⟩ := Option.map_eq_some_iff.mp h
    cases heq
    rw [ih hinner]
    rfl

/-- Where a literal is taken, the text is the body between two marks and what follows. -/
theorem eq_append_of_quoted {quote : Char} {before : Option Char} {t : Text} {hit : Hit}
    (h : quoted quote before t = some hit) : t = quote :: hit.piece ++ quote :: hit.rest := by
  simp only [quoted, Option.bind_eq_bind, Option.bind_eq_some_iff, Text.dropBeginning?_eq_some_iff,
    pure, Option.some.injEq] at h
  obtain ⟨behind, rfl, ⟨body, rest⟩, hbody, rfl⟩ := h
  rw [eq_append_of_literalBody? hbody]
  rfl

/-- The body of a literal is a piece of the text. -/
theorem quoted_yields (quote : Char) : (quoted quote).Yields fun _ => True := by
  intro before t hit h
  rw [eq_append_of_quoted h]
  exact ⟨trivial, [quote], quote :: hit.rest, rfl⟩

theorem infix_of_mem_quotedLiterals {t body : Text} (h : body ∈ quotedLiterals t) : body <:+: t := by
  obtain ⟨quote, -, hbody⟩ := List.mem_flatMap.mp h
  exact ((quoted_yields quote).of_mem_pieces hbody).2

end Wording.Tokens
