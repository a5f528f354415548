import Wording.Proofs.Tokens.Python
import Wording.Proofs.Tokens.Quotation

/-! # The bodies of Python's literals

Each shape of literals has a frame: some letters, and a mark before and behind the body. What a shape takes is a body in
its frame, in both directions (`Frame.pattern_eq_some_iff`), and the frames are a list, so that one statement serves all
shapes.

Taking off the delimiters leaves this body, although the delimiters are taken off by what stands at the ends alone: no
body begins or ends so that its quotes could be taken for those of a mark. A body between triple marks ends before the
first of them, and one between single quotes holds no such quote but behind a backslash; where an empty body makes more
quotes meet than a mark has, the frame is told apart by what is left.
-/

set_option autoImplicit false

namespace Wording.Tokens.Python

variable {quote : Char} {letters mark t body rest : Text} {before : Option Char} {hit : Hit}

/-! ## Frames -/

/-- What a shape of literals has around a body: some letters, and a mark on both sides. -/
structure Frame where
  letters : Text
  mark : Text

/-- The frames of the shapes of literals, in their order. -/
def literalFrames : List Frame :=
  [⟨[], tripleDouble⟩, ⟨[], tripleSingle⟩, ⟨[], ['"']⟩, ⟨[], ['\'']⟩,
   ⟨['f'], ['"']⟩, ⟨['f'], ['\'']⟩, ⟨['r'], ['"']⟩, ⟨['r'], ['\'']⟩]

namespace Frame

/-- A body in its frame. -/
def around (f : Frame) (body : Text) : Text := f.letters ++ f.mark ++ body ++ f.mark

/-- The bodies that a frame can have: between single quotes or double ones, those of quoted literals; between longer
marks, all texts that the next mark ends. -/
def Admits (f : Frame) (body : Text) : Prop :=
  match f.mark with
  | [quote] => IsBody quote body
  | mark => Text.FirstAt mark (body ++ mark) body.length

/-- The shape of the literals with a frame. -/
def pattern (f : Frame) : Pattern :=
  match f.mark with
  | [quote] => literal f.letters quote
  | mark => docstring mark

/-- The frames of docstrings, and those of literals between single quotes or double ones. -/
inductive IsKnown : Frame → Prop
  | docstring {quote : Char} : quote = '"' ∨ quote = '\'' → IsKnown ⟨[], [quote, quote, quote]⟩
  | literal {quote : Char} {letters : Text} : quote = '"' ∨ quote = '\'' → (∀ c ∈ letters, isLiteralLetter c = true) →
      IsKnown ⟨letters, [quote]⟩

theorem isKnown_of_mem {f : Frame} (h : f ∈ literalFrames) : f.IsKnown := by
  simp only [literalFrames, List.mem_cons, List.not_mem_nil, or_false] at h
  obtain rfl | rfl | rfl | rfl | rfl | rfl | rfl | rfl := h
  · exact .docstring (.inl rfl)
  · exact .docstring (.inr rfl)
  · exact .literal (.inl rfl) (List.forall_mem_nil _)
  · exact .literal (.inr rfl) (List.forall_mem_nil _)
  · exact .literal (.inl rfl) (List.forall_mem_singleton.mpr rfl)
  · exact .literal (.inr rfl) (List.forall_mem_singleton.mpr rfl)
  · exact .literal (.inl rfl) (List.forall_mem_singleton.mpr rfl)
  · exact .literal (.inr rfl) (List.forall_mem_singleton.mpr rfl)

end Frame

theorem literalPatterns_eq : literalPatterns = literalFrames.map Frame.pattern := rfl

/-! ## Literals -/

/-- A docstring is exactly a text between two marks that the next mark ends. -/
theorem docstring_eq_some_iff :
    docstring mark before t = some hit ↔
      ∃ body, Text.FirstAt mark (body ++ mark) body.length ∧ hit.piece = mark ++ body ++ mark ∧
        t = hit.piece ++ hit.rest := by
  simp only [docstring, Option.map_eq_some_iff, between_eq_some_iff, Text.cutAt?_eq_some_iff]
  constructor
  · rintro ⟨found, ⟨behind, rfl, rfl, hfirst⟩, rfl⟩
    have hends : Text.FirstAt mark (found.piece ++ mark ++ []) found.piece.length := hfirst.of_same_beginning
    rw [List.append_nil] at hends
    exact ⟨found.piece, hends, rfl, by simp only [List.append_assoc]⟩
  · rintro ⟨body, hends, hpiece, rfl⟩
    rw [← List.append_nil (body ++ mark)] at hends
    refine ⟨⟨body, hit.rest⟩, ⟨body ++ mark ++ hit.rest, ?_, rfl, hends.of_same_beginning⟩, ?_⟩
    · rw [hpiece]
      simp only [List.append_assoc]
    · rw [← hpiece]

/-- A literal is exactly a body of quoted literals between two quotes, behind its letters. -/
theorem literal_eq_some_iff (hquote : quote ≠ '\\') :
    literal letters quote before t = some hit ↔
      ∃ body, IsBody quote body ∧ hit.piece = letters ++ [quote] ++ body ++ [quote] ∧ t = hit.piece ++ hit.rest := by
  simp only [literal, Option.bind_eq_bind, Option.bind_eq_some_iff, Text.dropBeginning?_eq_some_iff,
    quoted_eq_some_iff hquote, pure, Option.some.injEq]
  constructor
  · rintro ⟨-, rfl, found, ⟨hbody, rfl⟩, rfl⟩
    exact ⟨found.piece, hbody, by simp, by simp⟩
  · rintro ⟨body, hbody, hpiece, rfl⟩
    refine ⟨_, ?_, ⟨body, hit.rest⟩, ⟨hbody, rfl⟩, ?_⟩
    · rw [hpiece]
      simp
    · have hsame : letters ++ quote :: body ++ [quote] = hit.piece := by
        rw [hpiece]
        simp
      rw [hsame]

/-- What a shape takes is exactly a body in its frame. -/
theorem Frame.pattern_eq_some_iff {f : Frame} (hf : f.IsKnown) :
    f.pattern before t = some hit ↔ ∃ body, f.Admits body ∧ hit.piece = f.around body ∧ t = hit.piece ++ hit.rest := by
  cases hf with
  | docstring _ => exact docstring_eq_some_iff
  | literal hquote _ =>
    refine literal_eq_some_iff ?_
    rcases hquote with rfl | rfl <;> decide

/-! ## Delimiters -/

theorem dropQuote?_three (hquote : quote = '"' ∨ quote = '\'') (rest : Text) :
    dropQuote? (quote :: quote :: quote :: rest) = some rest := by
  rcases hquote with rfl | rfl <;> rfl

theorem dropQuote?_one (hquote : quote = '"' ∨ quote = '\'') (h : ¬ [quote, quote] <+: rest) :
    dropQuote? (quote :: rest) = some rest := by
  rcases hquote with rfl | rfl
  · exact dropQuote?.eq_3 rest fun more heq => h ⟨more, heq.symm⟩
  · exact dropQuote?.eq_4 rest fun more heq => h ⟨more, heq.symm⟩

/-- Letters and the quotes behind them are taken off at the beginning. -/
theorem stripOpening_append (hletters : ∀ c ∈ letters, isLiteralLetter c = true) (hquote : quote = '"' ∨ quote = '\'')
    (h : dropQuote? (quote :: t) = some rest) : stripOpening (letters ++ quote :: t) = rest := by
  have hstop : ¬ isLiteralLetter quote = true := by rcases hquote with rfl | rfl <;> decide
  rw [stripOpening, List.dropWhile_append_of_pos hletters, List.dropWhile_cons_of_neg hstop, h]
  rfl

theorem stripClosing_of_reverse (hquote : quote = '"' ∨ quote = '\'') (ht : t.reverse = quote :: rest)
    (h : dropQuote? (quote :: rest) = some body.reverse) : stripClosing t = body := by
  have hfeed : quote ≠ '\n' := by rcases hquote with rfl | rfl <;> decide
  unfold stripClosing
  rw [ht]
  split
  next heq => exact absurd (List.cons.inj heq).1 hfeed
  next => rw [h, Option.getD_some, List.reverse_reverse]

/-- Taking off the delimiters of a literal leaves exactly its body. -/
theorem stripDelimiters_around {f : Frame} (hf : f.IsKnown) (h : f.Admits body) :
    stripDelimiters (f.around body) = body := by
  cases hf with
  | @docstring quote hquote =>
    have hopening : stripOpening (quote :: quote :: quote :: (body ++ [quote, quote, quote])) = body ++ _ :=
      stripOpening_append (List.forall_mem_nil _) hquote (dropQuote?_three hquote _)
    have hclosing : stripClosing (body ++ [quote, quote, quote]) = body :=
      stripClosing_of_reverse hquote List.reverse_append (dropQuote?_three hquote _)
    have haround : Frame.around ⟨[], [quote, quote, quote]⟩ body =
        quote :: quote :: quote :: (body ++ [quote, quote, quote]) := rfl
    rw [haround, stripDelimiters, hopening, hclosing]
  | @literal quote letters hquote hletters =>
    have hslash : quote ≠ '\\' := by rcases hquote with rfl | rfl <;> decide
    have hbody : IsBody quote body := h
    have hbegins : ¬ [quote, quote] <+: body ++ [quote] := by
      cases body with
      | nil => exact fun hpair => absurd hpair.length_le (Nat.not_succ_le_self 1)
      | cons c cs => exact fun hpair => hbody.head_ne hslash c rfl (List.cons_prefix_cons.mp hpair).1.symm
    have hends : ¬ [quote, quote] <+: body.reverse := by
      intro hpair
      have hsuffix : [quote, quote] <:+ body := List.reverse_prefix.mp hpair
      exact hbody.not_infix hslash hsuffix.isInfix
    have haround : Frame.around ⟨letters, [quote]⟩ body = letters ++ quote :: (body ++ [quote]) := by
      simp [Frame.around]
    rw [haround, stripDelimiters, stripOpening_append hletters hquote (dropQuote?_one hquote hbegins)]
    exact stripClosing_of_reverse hquote List.reverse_concat (dropQuote?_one hquote hends)

/-! ## Strings -/

/-- The literals of a shape, their delimiters taken off, are the bodies that it takes in its frame. -/
theorem body_of_mem_pieces {f : Frame} (hf : f.IsKnown) {piece : Text} (h : piece ∈ f.pattern.pieces t) :
    f.Admits (stripDelimiters piece) ∧ f.around (stripDelimiters piece) = piece ∧ piece <:+: t := by
  have hyields : f.pattern.Yields fun piece => ∃ body, f.Admits body ∧ piece = f.around body := by
    intro before t hit hhit
    obtain ⟨body, hbody, hpiece, rfl⟩ := (Frame.pattern_eq_some_iff hf).mp hhit
    exact ⟨⟨body, hbody, hpiece⟩, (List.prefix_append _ _).isInfix⟩
  obtain ⟨⟨body, hbody, rfl⟩, hinfix⟩ := hyields.of_mem_pieces h
  rw [stripDelimiters_around hf hbody]
  exact ⟨hbody, rfl, hinfix⟩

/-- The strings of a text are the bodies of its literals, one shape after the other: every literal that a shape takes is
a body in the frame of the shape, with its letters and its mark, and taking off the delimiters leaves this body. -/
theorem strings_eq_bodies (t : Text) :
    ∃ bodies : Frame → List Text,
      literalPatterns.map (fun p => p.pieces t) = literalFrames.map (fun f => (bodies f).map f.around) ∧
        strings t = literalFrames.flatMap bodies ∧
        ∀ f ∈ literalFrames, ∀ body ∈ bodies f,
          f.Admits body ∧ f.around body <:+: t ∧ stripDelimiters (f.around body) = body := by
  refine ⟨fun f => (f.pattern.pieces t).map stripDelimiters, ?_, ?_, ?_⟩
  · rw [literalPatterns_eq, List.map_map]
    refine List.map_congr_left fun f hf => ?_
    have hpieces : ∀ piece ∈ f.pattern.pieces t, f.around (stripDelimiters piece) = piece := fun piece hpiece =>
      (body_of_mem_pieces (Frame.isKnown_of_mem hf) hpiece).2.1
    rw [List.map_map]
    exact ((List.map_congr_left hpieces).trans (List.map_id' _)).symm
  · rw [strings, literalPatterns_eq, List.flatMap_map]
  · intro f hf body hbody
    obtain ⟨piece, hpiece, rfl⟩ := List.mem_map.mp hbody
    obtain ⟨hadmits, haround, hinfix⟩ := body_of_mem_pieces (Frame.isKnown_of_mem hf) hpiece
    exact ⟨hadmits, by rwa [haround], by rw [haround]⟩

/-- Each shape reads the whole text, also inside the literals of another one. -/
example : strings "r\"it's\" + '''\"a\n\"'''".toList =
    ["\"a\n\"", "it's", "a\n", "s\" + ", "", "", "it's"].map String.toList := by
  decide +kernel

end Wording.Tokens.Python
