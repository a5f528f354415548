import Wording.Text.Basic
import Wording.Text.Blank

/-!
The lines of a text and the pieces in them. Joining the lines gives the text back, no line holds a line
feed, and the pieces that stand in some line are exactly the pieces of the text without a line feed.
Trimming and the rest of a line only take pieces out of a text.
-/

set_option autoImplicit false

namespace Wording.Text

theorem splitOnChar_eq_splitOn (separator : Char) (t : Text) :
    splitOnChar separator t = t.splitOn separator := by
  induction t with
  | nil => rw [splitOnChar, List.splitOn_nil]
  | cons c cs ih =>
    rw [splitOnChar, List.splitOn_cons_eq_if_modifyHead, ih]
    simp only [beq_iff_eq]
    split
    · rfl
    · obtain ⟨part, parts, h⟩ := List.exists_cons_of_ne_nil (List.splitOn_ne_nil separator cs)
      rw [h, List.modifyHead_cons]

/-- Joining is the concatenation of lists with another list between them. -/
theorem join_eq_intercalate (separator : Text) (parts : List Text) :
    join separator parts = separator.intercalate parts := by
  induction parts with
  | nil => rfl
  | cons part parts ih =>
    cases parts with
    | nil => simp only [join, List.intercalate_singleton]
    | cons next rest =>
      rw [join, ih, List.intercalate_cons_cons]

/-- The parts between a separator, joined by it, are the text. -/
theorem join_splitOnChar (separator : Char) (t : Text) :
    join [separator] (splitOnChar separator t) = t := by
  rw [join_eq_intercalate, splitOnChar_eq_splitOn, List.intercalate_splitOn]

/-- The lines joined by line feeds are the text. -/
theorem join_lines (t : Text) : join ['\n'] (lines t) = t := join_splitOnChar '\n' t

theorem infix_join_of_mem {separator part : Text} {parts : List Text} (h : part ∈ parts) :
    part <:+: join separator parts := by
  induction parts with
  | nil => cases h
  | cons first rest ih =>
    cases rest with
    | nil =>
      rw [List.mem_singleton.mp h]
      exact List.infix_rfl
    | cons next rest =>
      rw [join]
      rcases List.mem_cons.mp h with rfl | h
      · exact ((List.prefix_append _ _).trans (List.prefix_append _ _)).isInfix
      · exact (ih h).trans (List.suffix_append _ _).isInfix

theorem infix_of_mem_splitOnChar {separator : Char} {t part : Text}
    (h : part ∈ splitOnChar separator t) : part <:+: t := by
  have hjoin : part <:+: join [separator] (splitOnChar separator t) := infix_join_of_mem h
  rwa [join_splitOnChar] at hjoin

theorem separator_notMem_of_mem_splitOnChar {separator : Char} {t part : Text}
    (h : part ∈ splitOnChar separator t) : separator ∉ part := by
  induction t generalizing part with
  | nil =>
    rw [splitOnChar, List.mem_singleton] at h
    rw [h]
    exact List.not_mem_nil
  | cons c cs ih =>
    rw [splitOnChar] at h
    split at h
    · rcases List.mem_cons.mp h with rfl | h
      · exact List.not_mem_nil
      · exact ih h
    next hc =>
      obtain ⟨first, rest, hparts⟩ : ∃ first rest, splitOnChar separator cs = first :: rest := by
        rw [splitOnChar_eq_splitOn]
        exact List.exists_cons_of_ne_nil (List.splitOn_ne_nil separator cs)
      rw [hparts] at h ih
      rcases List.mem_cons.mp h with rfl | h
      · intro hmem
        rcases List.mem_cons.mp hmem with rfl | hmem
        · exact hc rfl
        · exact ih List.mem_cons_self hmem
      · exact ih (List.mem_cons_of_mem _ h)

/-- A beginning of a text without the separator is a beginning of the first part. -/
theorem prefix_head_splitOnChar {separator : Char} {t piece : Text} (h : piece <+: t)
    (hpiece : separator ∉ piece) :
    ∃ part parts, splitOnChar separator t = part :: parts ∧ piece <+: part := by
  induction t generalizing piece with
  | nil => exact ⟨[], [], rfl, h⟩
  | cons c cs ih =>
    cases piece with
    | nil =>
      obtain ⟨part, parts, hparts⟩ := List.exists_cons_of_ne_nil
        (splitOnChar_eq_splitOn separator (c :: cs) ▸ List.splitOn_ne_nil separator (c :: cs))
      exact ⟨part, parts, hparts, List.nil_prefix⟩
    | cons x xs =>
      obtain ⟨rfl, hxs⟩ := List.cons_prefix_cons.mp h
      have hx : ¬ x = separator := fun e => hpiece (e ▸ List.mem_cons_self)
      obtain ⟨part, parts, hparts, hpart⟩ :=
        ih hxs (fun hmem => hpiece (List.mem_cons_of_mem _ hmem))
      refine ⟨x :: part, parts, ?_, List.cons_prefix_cons.mpr ⟨rfl, hpart⟩⟩
      rw [splitOnChar, if_neg hx, hparts]

/-- A piece of a text without the separator is a piece of one of the parts. -/
theorem exists_part_of_infix {separator : Char} {t piece : Text} (h : piece <:+: t)
    (hpiece : separator ∉ piece) : ∃ part ∈ splitOnChar separator t, piece <:+: part := by
  induction t with
  | nil => exact ⟨[], List.mem_singleton.mpr rfl, h⟩
  | cons c cs ih =>
    rcases List.infix_cons_iff.mp h with h | h
    · obtain ⟨part, parts, hparts, hpart⟩ := prefix_head_splitOnChar h hpiece
      exact ⟨part, hparts ▸ List.mem_cons_self, hpart.isInfix⟩
    · obtain ⟨part, hmem, hpart⟩ := ih h
      rw [splitOnChar]
      split
      · exact ⟨part, List.mem_cons_of_mem _ hmem, hpart⟩
      · cases hparts : splitOnChar separator cs with
        | nil =>
          rw [hparts] at hmem
          cases hmem
        | cons first rest =>
          rw [hparts] at hmem
          rcases List.mem_cons.mp hmem with rfl | hmem
          · exact ⟨c :: part, List.mem_cons_self, List.infix_cons hpart⟩
          · exact ⟨part, List.mem_cons_of_mem _ hmem, hpart⟩

/-- The pieces of the lines are the pieces of the text without a line feed. -/
theorem exists_line_iff {t piece : Text} :
    (∃ line ∈ lines t, piece <:+: line) ↔ piece <:+: t ∧ '\n' ∉ piece := by
  constructor
  · rintro ⟨line, hline, h⟩
    exact ⟨h.trans (infix_of_mem_splitOnChar hline),
      fun hmem => separator_notMem_of_mem_splitOnChar hline (h.subset hmem)⟩
  · rintro ⟨h, hpiece⟩
    exact exists_part_of_infix h hpiece

theorem trim_isInfix (t : Text) : trim t <:+: t := by
  have hright : trimRight (trimLeft t) <+: trimLeft t := by
    rw [trimRight, ← List.reverse_suffix, List.reverse_reverse]
    exact List.dropWhile_suffix _
  exact hright.isInfix.trans (List.dropWhile_suffix _).isInfix

theorem restOfLine_append (t : Text) : (restOfLine t).1 ++ (restOfLine t).2 = t := by
  induction t with
  | nil => rfl
  | cons c cs ih =>
    rw [restOfLine]
    split
    · rfl
    · rw [List.cons_append, ih]

/-- Behind the rest of a line, the text is at its end or goes on with a line feed. -/
theorem restOfLine_stops (t : Text) :
    (restOfLine t).2 = [] ∨ ∃ more, (restOfLine t).2 = '\n' :: more := by
  induction t with
  | nil => exact Or.inl rfl
  | cons c cs ih =>
    rw [restOfLine]
    split
    next hc => exact Or.inr ⟨cs, by rw [hc]⟩
    · exact ih

/-- Where the text is at its end or goes on with a line feed, the line ends. -/
theorem restOfLine_of_stops {line rest : Text} (hline : '\n' ∉ line)
    (hrest : rest = [] ∨ ∃ more, rest = '\n' :: more) : restOfLine (line ++ rest) = (line, rest) := by
  induction line with
  | nil =>
    rcases hrest with rfl | ⟨more, rfl⟩
    · rfl
    · rfl
  | cons c cs ih =>
    have hc : ¬ c = '\n' := fun e => hline (e ▸ List.mem_cons_self)
    rw [List.cons_append, restOfLine, if_neg hc, ih fun hmem => hline (List.mem_cons_of_mem _ hmem)]

theorem lines_of_notMem {line : Text} (h : '\n' ∉ line) : lines line = [line] := by
  rw [lines, splitOnChar_eq_splitOn, List.splitOn_eq_singleton h]

theorem lines_append_cons {line : Text} (h : '\n' ∉ line) (t : Text) : lines (line ++ '\n' :: t) = line :: lines t := by
  induction line with
  | nil => rfl
  | cons c cs ih =>
    have hc : ¬ c = '\n' := fun e => h (e ▸ List.mem_cons_self)
    have hcs := ih fun hmem => h (List.mem_cons_of_mem _ hmem)
    rw [lines] at hcs
    rw [lines, List.cons_append, splitOnChar, if_neg hc, hcs]

/-- What holds of a single line, and of a line before any text that it holds of, holds of every text. -/
theorem line_induction {motive : Text → Prop} (last : ∀ line, '\n' ∉ line → motive line)
    (before : ∀ line t, '\n' ∉ line → motive t → motive (line ++ '\n' :: t)) (t : Text) : motive t := by
  have go : ∀ line, '\n' ∉ line → motive (line ++ t) := by
    induction t with
    | nil =>
      intro line hline
      rw [List.append_nil]
      exact last line hline
    | cons c cs ih =>
      intro line hline
      by_cases hc : c = '\n'
      · rw [hc]
        exact before line cs hline (ih [] List.not_mem_nil)
      · rw [List.append_cons]
        refine ih (line ++ [c]) fun hmem => ?_
        rcases List.mem_append.mp hmem with hmem | hmem
        · exact hline hmem
        · exact hc (List.mem_singleton.mp hmem).symm
  exact go [] List.not_mem_nil

theorem length_lines_le (t : Text) : (lines t).length ≤ t.length + 1 := by
  induction t using line_induction with
  | last line hline =>
    rw [lines_of_notMem hline, List.length_singleton]
    exact Nat.le_add_left 1 _
  | before line t hline ih =>
    rw [lines_append_cons hline, List.length_cons, List.length_append, List.length_cons]
    omega

/-- Joined by line feeds, texts without any are the lines of the whole. -/
theorem lines_join {parts : List Text} (hne : parts ≠ []) (h : ∀ part ∈ parts, '\n' ∉ part) :
    lines (join ['\n'] parts) = parts := by
  rw [lines, splitOnChar_eq_splitOn, join_eq_intercalate, List.splitOn_intercalate '\n' h hne]

end Wording.Text
