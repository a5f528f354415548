import Wording.Proofs.Tokens.LineEnd

/-! # Comments that the line ends, line by line

Reading takes one comment from each line that holds the mark: it begins at the first place of the mark on that line, and
takes all that is behind it, further marks and all separators but the line feed included. The reading of a text is that
of its lines one after the other (`pieces_toLineEnd_line`), since what is taken on a line ends with it. This holds for
every mark without a line feed, also for one whose places overlap each other.
-/

set_option autoImplicit false

namespace Wording.Tokens

variable {mark t line rest : Text}

/-- The text behind the first place of a mark, if the mark stands in the text. -/
def behind? (mark t : Text) : Option Text :=
  (Text.indexOf? mark t).map fun place => t.drop (place + mark.length)

theorem behind?_nil (hmark : mark ≠ []) : behind? mark [] = none := by
  rw [behind?, Text.indexOf?, if_neg hmark, Option.map_none]

theorem behind?_append (mark body : Text) : behind? mark (mark ++ body) = some body := by
  have hplace : Text.indexOf? mark (mark ++ body) = some 0 :=
    Text.indexOf?_eq_some_iff.mpr (Text.firstAt_zero_iff.mpr (List.prefix_append mark body))
  rw [behind?, hplace, Option.map_some, Nat.zero_add, List.drop_left]

theorem behind?_cons {c : Char} {cs : Text} (h : ¬ mark <+: c :: cs) : behind? mark (c :: cs) = behind? mark cs := by
  have hbegins : ¬ Text.beginsWith mark (c :: cs) = true := fun hbegins => h (Text.beginsWith_iff.mp hbegins)
  rw [behind?, Text.indexOf?, if_neg hbegins, Option.map_map, behind?]
  refine congrArg (Option.map · _) (funext fun place => ?_)
  rw [Function.comp_apply, Nat.add_right_comm, List.drop_succ_cons]

/-- From a line, what is behind its first mark is taken, and reading goes on at its end. -/
theorem pieces_toLineEnd_line (hmark : mark ≠ []) (hfeed : '\n' ∉ mark) (hline : '\n' ∉ line)
    (hrest : rest = [] ∨ ∃ more, rest = '\n' :: more) :
    (toLineEnd mark).pieces (line ++ rest) = (behind? mark line).toList ++ (toLineEnd mark).pieces rest := by
  have hsteady := toLineEnd_steady hmark
  induction line using mark_induction mark with
  | nil => rw [behind?_nil hmark, Option.toList_none, List.nil_append, List.nil_append]
  | hit body =>
    have hfree : '\n' ∉ body := fun hmem => hline (List.mem_append_right mark hmem)
    rw [hsteady.pieces_of_hit (toLineEnd_of_body hfree hrest), behind?_append, Option.toList_some,
      List.singleton_append]
  | miss c cs h ih =>
    have hmiss := toLineEnd_eq_none hfeed hrest h
    rw [List.cons_append] at hmiss ⊢
    rw [hsteady.pieces_of_miss hmiss, behind?_cons h, ih fun hmem => hline (List.mem_cons_of_mem _ hmem)]

/-- What is behind the first mark of each line is taken, line by line. -/
theorem pieces_toLineEnd (hmark : mark ≠ []) (hfeed : '\n' ∉ mark) (t : Text) :
    (toLineEnd mark).pieces t = (Text.lines t).filterMap (behind? mark) := by
  induction t using Text.line_induction with
  | last line hline =>
    have htaken := pieces_toLineEnd_line hmark hfeed hline (.inl rfl)
    rw [List.append_nil] at htaken
    rw [htaken, Text.lines_of_notMem hline, List.filterMap_cons]
    cases behind? mark line <;> rfl
  | before line t hline ih =>
    have hmiss : toLineEnd mark none ('\n' :: t) = none :=
      toLineEnd_eq_none hfeed (.inr ⟨t, rfl⟩) fun h => hmark (List.prefix_nil.mp h)
    rw [pieces_toLineEnd_line hmark hfeed hline (.inr ⟨t, rfl⟩), (toLineEnd_steady hmark).pieces_of_miss hmiss, ih,
      Text.lines_append_cons hline, List.filterMap_cons]
    cases behind? mark line <;> rfl

/-- The comments up to the line end are, for each line that holds the mark, what is behind its first place on that line,
trimmed. -/
theorem lineComments_eq (hmark : mark ≠ []) (hfeed : '\n' ∉ mark) (t : Text) :
    lineComments mark t = (Text.lines t).filterMap fun line =>
      (Text.indexOf? mark line).map fun place => Text.trim (line.drop (place + mark.length)) := by
  rw [lineComments, if_neg hmark, pieces_toLineEnd hmark hfeed, List.map_filterMap]
  simp only [behind?, Option.map_map, Function.comp_def]

/-- Marks that overlap, separators that end no line and comments with nothing in them. -/
theorem lineComments_eq_overlapping :
    ("**".toList ≠ [] ∧ '\n' ∉ "**".toList) ∧
      lineComments "**".toList "a *** b\r** c\n\nd **\n**\u2028**".toList =
        ["* b\r** c", "", "**"].map String.toList ∧
      lineComments "**".toList "a *** b\r** c\n\nd **\n**\u2028**".toList =
        (Text.lines "a *** b\r** c\n\nd **\n**\u2028**".toList).filterMap fun line =>
          (Text.indexOf? "**".toList line).map fun place => Text.trim (line.drop (place + "**".toList.length)) :=
  ⟨by decide, by decide +kernel, lineComments_eq (by decide) (by decide) _⟩

end Wording.Tokens
