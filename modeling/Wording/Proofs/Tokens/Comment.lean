import Wording.Tokens.Comment
import Wording.Proofs.Text.Lines
import Wording.Proofs.Text.Search
import Wording.Proofs.Tokens.Pattern

/-! # Comments as pieces of the text

What stands behind a mark up to the end of the line and what stands between two marks are pieces of the text, trimmed or
not. Erasing comments between two marks looks at nothing outside of them, and erasing comments up to the line end
touches no text before a line feed. So a piece of what is left when comments between marks are erased remains of the
text (`Remains`): it is what erasing leaves of a piece of the text that begins and ends with the same characters, so
that all that is gone from it stood inside.
-/

set_option autoImplicit false

namespace Wording.Tokens

variable {mark opening closing t : Text} {before : Option Char} {hit : Hit}

/-! ## Up to the line end -/

/-- A hit up to the line end is the mark, the rest of the line and what follows it. -/
theorem toLineEnd_eq_some_iff :
    toLineEnd mark before t = some hit ↔
      ∃ behind, t = mark ++ behind ∧ ⟨(Text.restOfLine behind).1, (Text.restOfLine behind).2⟩ = hit := by
  simp only [toLineEnd, Option.bind_eq_bind, Option.bind_eq_some_iff, Text.dropBeginning?_eq_some_iff,
    pure, Option.some.injEq]

/-- Where a mark and the rest of its line are taken, the text is the mark, that rest and what follows. -/
theorem eq_append_of_toLineEnd (h : toLineEnd mark before t = some hit) :
    t = mark ++ hit.piece ++ hit.rest := by
  obtain ⟨behind, rfl, rfl⟩ := toLineEnd_eq_some_iff.mp h
  rw [List.append_assoc, Text.restOfLine_append]

/-- What follows a mark on its line is a piece of the text. -/
theorem toLineEnd_yields (mark : Text) : (toLineEnd mark).Yields fun _ => True := by
  intro before t hit h
  rw [eq_append_of_toLineEnd h]
  exact ⟨trivial, List.infix_append mark hit.piece hit.rest⟩

theorem toLineEnd_steady (hmark : mark ≠ []) : (toLineEnd mark).Steady where
  ignores _ _ := rfl
  takes _ hit h := ⟨mark ++ hit.piece, List.append_ne_nil_of_left_ne_nil hmark _, eq_append_of_toLineEnd h⟩

theorem toLineEnd_erasing_steady (hmark : mark ≠ []) : (toLineEnd mark).erasing.Steady where
  ignores _ _ := rfl
  takes := by
    intro t hit h
    obtain ⟨found, hfound, rfl⟩ := Option.map_eq_some_iff.mp h
    exact (toLineEnd_steady hmark).takes t found hfound

/-- An eraser up to the line end leaves texts without a line feed alone. -/
theorem toLineEnd_erasing_bars (mark : Text) : (toLineEnd mark).erasing.Bars (· ≠ '\n') := by
  intro t hit h
  obtain ⟨found, hfound, rfl⟩ := Option.map_eq_some_iff.mp h
  obtain ⟨behind, -, rfl⟩ := toLineEnd_eq_some_iff.mp hfound
  refine ⟨fun c hc => absurd hc List.not_mem_nil, fun _ => ?_⟩
  rcases Text.restOfLine_stops behind with hend | ⟨more, hmore⟩
  · exact Or.inl hend
  · exact Or.inr ⟨'\n', more, hmore, fun h => h rfl⟩

/-! ## Between two marks -/

/-- A hit between two marks is the opening mark and a cut of the text behind it at the closing mark. -/
theorem between_eq_some_iff :
    between opening closing before t = some hit ↔
      ∃ behind, t = opening ++ behind ∧ Text.cutAt? closing behind = some (hit.piece, hit.rest) := by
  simp only [between, Option.bind_eq_bind, Option.bind_eq_some_iff, Text.dropBeginning?_eq_some_iff,
    pure, Option.some.injEq]
  constructor
  · rintro ⟨behind, rfl, ⟨body, rest⟩, hcut, rfl⟩
    exact ⟨behind, rfl, hcut⟩
  · rintro ⟨behind, rfl, hcut⟩
    exact ⟨behind, rfl, (hit.piece, hit.rest), hcut, rfl⟩

/-- Where text between two marks is taken, the text is the marks around the piece and what follows. -/
theorem eq_append_of_between (h : between opening closing before t = some hit) :
    t = opening ++ hit.piece ++ closing ++ hit.rest := by
  obtain ⟨behind, rfl, hcut⟩ := between_eq_some_iff.mp h
  rw [(Text.cutAt?_eq_some_iff.mp hcut).1]
  simp only [List.append_assoc]

/-- What stands between two marks is a piece of the text. -/
theorem between_yields (opening closing : Text) : (between opening closing).Yields fun _ => True := by
  intro before t hit h
  rw [eq_append_of_between h, List.append_assoc _ closing]
  exact ⟨trivial, List.infix_append opening hit.piece _⟩

/-- The eraser of comments between two marks takes at least the opening mark, looks at nothing outside the
comment, and finds none where the text ends earlier and it found none before. -/
theorem between_erasing_erases (hopening : opening ≠ []) (closing : Text) :
    (between opening closing).erasing.Erases where
  ignores _ _ := rfl
  takes := by
    intro t hit h
    obtain ⟨found, hfound, rfl⟩ := Option.map_eq_some_iff.mp h
    have hne : opening ++ found.piece ++ closing ≠ [] :=
      List.append_ne_nil_of_left_ne_nil (List.append_ne_nil_of_left_ne_nil hopening _) _
    exact ⟨_, hne, eq_append_of_between hfound⟩
  leaves := by
    intro t hit h
    obtain ⟨found, -, rfl⟩ := Option.map_eq_some_iff.mp h
    rfl
  hit_append := by
    intro taken hit h other
    obtain ⟨found, hfound, rfl⟩ := Option.map_eq_some_iff.mp h
    obtain ⟨behind, ht, hcut⟩ := between_eq_some_iff.mp hfound
    have htaken : taken = opening ++ (found.piece ++ closing) := by
      have hwhole := eq_append_of_between hfound
      rw [List.append_assoc opening] at hwhole
      exact List.append_cancel_right hwhole
    have hother := Text.cutAt?_of_same_beginning hcut other
    refine Option.map_eq_some_iff.mpr ⟨⟨found.piece, other⟩, between_eq_some_iff.mpr ?_, rfl⟩
    exact ⟨found.piece ++ closing ++ other, by rw [htaken, List.append_assoc], hother⟩
  miss_of_isPrefix := by
    intro t u hmiss hu
    refine Option.map_eq_none_iff.mpr (Option.eq_none_iff_forall_ne_some.mpr fun found hfound => ?_)
    obtain ⟨more, rfl⟩ := hu
    obtain ⟨behind, rfl, hcut⟩ := between_eq_some_iff.mp hfound
    obtain ⟨hbehind, -⟩ := Text.cutAt?_eq_some_iff.mp hcut
    have hlonger := Text.cutAt?_of_same_beginning hcut (found.rest ++ more)
    rw [← List.append_assoc, ← hbehind] at hlonger
    have hhit : between opening closing none (opening ++ behind ++ more) =
        some ⟨found.piece, found.rest ++ more⟩ :=
      between_eq_some_iff.mpr ⟨behind ++ more, List.append_assoc _ _ _, hlonger⟩
    rw [Pattern.erasing, hhit] at hmiss
    cases hmiss

/-- A text is what an eraser leaves of a piece of another text that begins and ends like it, so that all
that is erased there stands inside the text. -/
def Remains (erase : Text → Text) (t name : Text) : Prop :=
  ∃ piece, piece <:+: t ∧ erase piece = name ∧ piece.head? = name.head? ∧
    piece.getLast? = name.getLast?

theorem remains_of_infix_replace {p : Pattern} (hp : p.Erases) {name : Text} (hname : name ≠ [])
    (h : name <:+: p.replace t) : Remains p.replace t name := by
  obtain ⟨piece, hpiece, hleft, hends⟩ := hp.exists_of_isInfix hname h
  exact ⟨piece, hpiece, hleft, hends⟩

/-- What remains of a text from which comments were erased remains of the text before. -/
theorem Remains.of_replace {p : Pattern} (hp : p.Erases) {erase : Text → Text} {name : Text}
    (hname : name ≠ []) (h : Remains erase (p.replace t) name) :
    Remains (fun u => erase (p.replace u)) t name := by
  obtain ⟨piece, hpiece, hleft, hhead, hlast⟩ := h
  have hne : piece ≠ [] := by
    intro hnil
    rw [hnil, List.head?_nil, eq_comm, List.head?_eq_none_iff] at hhead
    exact hname hhead
  obtain ⟨whole, hwhole, hinner, hhead', hlast'⟩ := hp.exists_of_isInfix hne hpiece
  exact ⟨whole, hwhole, (congrArg erase hinner).trans hleft, hhead'.trans hhead, hlast'.trans hlast⟩

/-! ## Lists of comments -/

theorem infix_of_mem_trimmed {p : Pattern} (hp : p.Yields fun _ => True) {comment : Text}
    (h : comment ∈ (p.pieces t).map Text.trim) : comment <:+: t := by
  obtain ⟨piece, hpiece, rfl⟩ := List.mem_map.mp h
  exact (Text.trim_isInfix piece).trans (hp.of_mem_pieces hpiece).2

/-- Every comment up to the line end is a piece of the text. -/
theorem infix_of_mem_lineComments {comment : Text} (h : comment ∈ lineComments mark t) :
    comment <:+: t := by
  rw [lineComments] at h
  split at h
  · obtain ⟨line, hline, hcomment⟩ := List.mem_flatMap.mp h
    have hempty : ([] : Text) <:+: t := List.nil_infix
    split at hcomment
    · rwa [List.mem_singleton.mp hcomment]
    · rcases List.mem_cons.mp hcomment with rfl | hcomment
      · exact (Text.trim_isInfix line).trans (Text.infix_of_mem_splitOnChar hline)
      · rwa [List.mem_singleton.mp hcomment]
  · exact infix_of_mem_trimmed (toLineEnd_yields mark) h

theorem infix_of_mem_blockComments {comment : Text} (h : comment ∈ blockComments opening closing t) :
    comment <:+: t := by
  rw [blockComments] at h
  split at h
  · have hempty : ([] : Text) <:+: t := List.nil_infix
    rcases List.mem_cons.mp h with rfl | h
    · exact hempty
    · obtain ⟨c, hc, hcomment⟩ := List.mem_flatMap.mp h
      obtain ⟨left, right, rfl⟩ := List.append_of_mem hc
      rcases List.mem_cons.mp hcomment with rfl | hcomment
      · exact (Text.trim_isInfix [c]).trans ⟨left, right, List.append_cons left c right ▸ rfl⟩
      · rwa [List.mem_singleton.mp hcomment]
  · exact infix_of_mem_trimmed (between_yields opening closing) h

end Wording.Tokens
