import Wording.Proofs.Tokens.Comment
import Wording.Proofs.Tokens.Passes

/-! # Erasing to the end of the line

Erasing from a mark to the end of the line leaves each line up to its first mark, and so no mark at all. A line is read
on its own: what comes behind its end decides nothing on it. The split at the first mark of a line is made once, by the
induction principle `mark_induction`, of which the cases are a mark right here and any other character.
-/

set_option autoImplicit false

namespace Wording.Tokens

/-- A text up to the first place of a mark, or the whole text if the mark stands nowhere in it. -/
def upTo (mark t : Text) : Text := ((Text.cutAt? mark t).map Prod.fst).getD t

variable {mark t line rest : Text}

/-- What holds of the empty text, of a mark with any text behind it, and of a text with one more character at which the
mark does not stand, holds of every text. -/
theorem mark_induction (mark : Text) {motive : Text → Prop} (nil : motive []) (hit : ∀ body, motive (mark ++ body))
    (miss : ∀ c cs, ¬ mark <+: c :: cs → motive cs → motive (c :: cs)) (t : Text) : motive t := by
  induction t with
  | nil => exact nil
  | cons c cs ih =>
    by_cases h : mark <+: c :: cs
    · obtain ⟨body, hbody⟩ := h
      exact hbody ▸ hit body
    · exact miss c cs h ih

theorem upTo_append (mark body : Text) : upTo mark (mark ++ body) = [] := by
  have hcut : Text.cutAt? mark (mark ++ body) = some ([], body) :=
    Text.cutAt?_eq_some_iff.mpr ⟨rfl, Text.firstAt_zero_iff.mpr (List.prefix_append mark body)⟩
  rw [upTo, hcut]
  rfl

theorem upTo_cons {c : Char} {cs : Text} (h : ¬ mark <+: c :: cs) : upTo mark (c :: cs) = c :: upTo mark cs := by
  have hdrop : Text.dropBeginning? mark (c :: cs) = none := by
    refine Option.eq_none_iff_forall_ne_some.mpr fun behind hbehind => h ?_
    exact ⟨behind, (Text.dropBeginning?_eq_some_iff.mp hbehind).symm⟩
  rw [upTo, Text.cutAt?, hdrop, upTo]
  cases Text.cutAt? mark cs <;> rfl

theorem upTo_isPrefix (mark t : Text) : upTo mark t <+: t := by
  induction t using mark_induction mark with
  | nil =>
    rw [upTo, Text.cutAt?]
    split <;> exact List.prefix_rfl
  | hit body =>
    rw [upTo_append]
    exact List.nil_prefix
  | miss c cs h ih =>
    rw [upTo_cons h]
    exact List.cons_prefix_cons.mpr ⟨rfl, ih⟩

/-- A mark stands nowhere in a text up to the mark. -/
theorem not_infix_upTo (hmark : mark ≠ []) (t : Text) : ¬ mark <:+: upTo mark t := by
  induction t using mark_induction mark with
  | nil =>
    intro h
    exact hmark (List.infix_nil.mp (h.trans (upTo_isPrefix mark []).isInfix))
  | hit body =>
    rw [upTo_append]
    exact fun hnil => hmark (List.infix_nil.mp hnil)
  | miss c cs h ih =>
    rw [upTo_cons h]
    intro hmem
    rcases List.infix_cons_iff.mp hmem with hmem | hmem
    · exact h (hmem.trans (List.cons_prefix_cons.mpr ⟨rfl, upTo_isPrefix mark cs⟩))
    · exact ih hmem

/-- A mark without a line feed begins no line that it does not end on. -/
theorem isPrefix_of_isPrefix_append (hfeed : '\n' ∉ mark) (hrest : rest = [] ∨ ∃ more, rest = '\n' :: more)
    (h : mark <+: line ++ rest) : mark <+: line := by
  rcases List.prefix_or_prefix_of_prefix h (List.prefix_append line rest) with h' | ⟨behind, rfl⟩
  · exact h'
  · have hbehind := (List.prefix_append_right_inj line).mp h
    have hnil : behind = [] := by
      rcases hrest with rfl | ⟨more, rfl⟩
      · exact List.prefix_nil.mp hbehind
      · cases behind with
        | nil => rfl
        | cons c cs =>
          obtain ⟨rfl, -⟩ := List.cons_prefix_cons.mp hbehind
          exact absurd (List.mem_append_right line List.mem_cons_self) hfeed
    simp [hnil]

theorem toLineEnd_of_body {body : Text} (hbody : '\n' ∉ body) (hrest : rest = [] ∨ ∃ more, rest = '\n' :: more) :
    toLineEnd mark none (mark ++ body ++ rest) = some ⟨body, rest⟩ := by
  refine toLineEnd_eq_some_iff.mpr ⟨body ++ rest, List.append_assoc mark body rest, ?_⟩
  rw [Text.restOfLine_of_stops hbody hrest]

theorem toLineEnd_eq_none (hfeed : '\n' ∉ mark) (hrest : rest = [] ∨ ∃ more, rest = '\n' :: more)
    (h : ¬ mark <+: line) : toLineEnd mark none (line ++ rest) = none := by
  refine Option.eq_none_iff_forall_ne_some.mpr fun hit hhit => h ?_
  obtain ⟨behind, hbehind, -⟩ := toLineEnd_eq_some_iff.mp hhit
  exact isPrefix_of_isPrefix_append hfeed hrest ⟨behind, hbehind.symm⟩

/-- On a line, erasing to the line end leaves what stands before the first mark. -/
theorem replace_toLineEnd_line (hmark : mark ≠ []) (hfeed : '\n' ∉ mark) (hline : '\n' ∉ line)
    (hrest : rest = [] ∨ ∃ more, rest = '\n' :: more) :
    (toLineEnd mark).erasing.replace (line ++ rest) = upTo mark line ++ (toLineEnd mark).erasing.replace rest := by
  have hsteady := toLineEnd_erasing_steady hmark
  induction line using mark_induction mark with
  | nil => rw [List.prefix_nil.mp (upTo_isPrefix mark []), List.nil_append, List.nil_append]
  | hit body =>
    have hhit : toLineEnd mark none (mark ++ body ++ rest) = some ⟨body, rest⟩ :=
      toLineEnd_of_body (fun hmem => hline (List.mem_append_right mark hmem)) hrest
    have hleft : (toLineEnd mark).erasing none (mark ++ body ++ rest) = some ⟨[], rest⟩ :=
      Option.map_eq_some_iff.mpr ⟨_, hhit, rfl⟩
    rw [hsteady.replace_of_hit hleft, upTo_append]
  | miss c cs h ih =>
    have hmiss : (toLineEnd mark).erasing none (c :: cs ++ rest) = none :=
      Option.map_eq_none_iff.mpr (toLineEnd_eq_none hfeed hrest h)
    rw [List.cons_append] at hmiss ⊢
    rw [hsteady.replace_of_miss hmiss, upTo_cons h, List.cons_append,
      ih fun hmem => hline (List.mem_cons_of_mem _ hmem)]

/-- Erasing to the line end leaves each line up to its first mark. -/
theorem replace_toLineEnd (hmark : mark ≠ []) (hfeed : '\n' ∉ mark) (t : Text) :
    (toLineEnd mark).erasing.replace t = Text.join ['\n'] ((Text.lines t).map (upTo mark)) := by
  have hsteady := toLineEnd_erasing_steady hmark
  induction t using Text.line_induction with
  | last line hline =>
    have hleft := replace_toLineEnd_line hmark hfeed hline (.inl rfl)
    rw [List.append_nil] at hleft
    rw [hleft, Text.lines_of_notMem hline]
    exact List.append_nil _
  | before line t hline ih =>
    have hmiss : (toLineEnd mark).erasing none ('\n' :: t) = none :=
      Option.map_eq_none_iff.mpr (toLineEnd_eq_none hfeed (.inr ⟨t, rfl⟩) fun h => hmark (List.prefix_nil.mp h))
    obtain ⟨first, others, hlines⟩ : ∃ first others, Text.lines t = first :: others := by
      rw [Text.lines, Text.splitOnChar_eq_splitOn]
      exact List.exists_cons_of_ne_nil (List.splitOn_ne_nil '\n' t)
    rw [replace_toLineEnd_line hmark hfeed hline (.inr ⟨t, rfl⟩), hsteady.replace_of_miss hmiss, ih,
      Text.lines_append_cons hline, hlines]
    simp only [List.map_cons, Text.join, List.append_assoc, List.singleton_append]

/-- Erasing to the line end leaves no mark. -/
theorem not_infix_replace_toLineEnd (hmark : mark ≠ []) (hfeed : '\n' ∉ mark) (t : Text) :
    ¬ mark <:+: (toLineEnd mark).erasing.replace t := by
  have hlines : Text.lines ((toLineEnd mark).erasing.replace t) = (Text.lines t).map (upTo mark) := by
    rw [replace_toLineEnd hmark hfeed]
    refine Text.lines_join ?_ fun part hpart => ?_
    · rw [Text.lines, Text.splitOnChar_eq_splitOn, ne_eq, List.map_eq_nil_iff]
      exact List.splitOn_ne_nil '\n' t
    · obtain ⟨line, hline, rfl⟩ := List.mem_map.mp hpart
      exact fun hmem =>
        Text.separator_notMem_of_mem_splitOnChar hline ((upTo_isPrefix mark line).subset hmem)
  intro h
  obtain ⟨part, hpart, hmem⟩ := Text.exists_line_iff.mpr ⟨h, hfeed⟩
  rw [hlines] at hpart
  obtain ⟨line, -, rfl⟩ := List.mem_map.mp hpart
  exact not_infix_upTo hmark line hmem

theorem toLineEnd_erasing_lessens (hmark : mark ≠ []) : (toLineEnd mark).erasing.Lessens := by
  refine (toLineEnd_erasing_steady hmark).lessens fun t hit h => ?_
  obtain ⟨found, -, rfl⟩ := Option.map_eq_some_iff.mp h
  rfl

theorem foundIn_toLineEnd_iff : (toLineEnd mark).FoundIn t ↔ mark <:+: t := by
  have hbegins : ∀ place, toLineEnd mark none place ≠ none ↔ ∃ u, mark = u ∧ u <+: place := by
    intro place
    rw [exists_eq_left', Option.ne_none_iff_exists']
    constructor
    · rintro ⟨hit, hhit⟩
      obtain ⟨behind, hbehind, -⟩ := toLineEnd_eq_some_iff.mp hhit
      exact ⟨behind, hbehind.symm⟩
    · rintro ⟨behind, hbehind⟩
      exact ⟨_, toLineEnd_eq_some_iff.mpr ⟨behind, hbehind.symm, rfl⟩⟩
  rw [Pattern.foundIn_iff hbegins, exists_eq_left']

end Wording.Tokens
