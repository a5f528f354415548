import Mathlib.Logic.Basic
import Wording.Tokens.JavaScript
import Wording.Proofs.Tokens.LineEnd

/-! # Comments between two marks divide a text

Each comment stands behind the first opening mark that is left and ends at the first closing mark behind it, and no
comment stands in what is left at the end. `Divides` says this of a list of segments and a last text; every text has
such a division (`exists_division`), which is found by induction on the reading.

Taking the comments out of a text and taking the text out of the comments read the same division, so that each is told
by the other: what is read are its bodies, and what is left when they are erased is its outside. A text with literals
between quotation marks is divided likewise.
-/

set_option autoImplicit false

namespace Wording.Tokens

variable {opening closing t rest body : Text} {c : Char} {hit : Hit}

/-! ## Comments in a text -/

/-- A text holds a comment: an opening mark and a closing mark somewhere behind it. -/
def HoldsComment (opening closing t : Text) : Prop := ∃ body, opening ++ body ++ closing <:+: t

theorem between_ne_none_iff {before : Option Char} :
    between opening closing before t ≠ none ↔ ∃ body, opening ++ body ++ closing <+: t := by
  constructor
  · intro h
    obtain ⟨hit, hhit⟩ := Option.ne_none_iff_exists'.mp h
    exact ⟨hit.piece, hit.rest, (eq_append_of_between hhit).symm⟩
  · rintro ⟨body, rest, rfl⟩
    obtain ⟨parts, hparts⟩ := Text.exists_cutAt?_iff.mpr (List.infix_append body closing rest)
    have hhit : between opening closing before (opening ++ body ++ closing ++ rest) = some ⟨parts.1, parts.2⟩ :=
      between_eq_some_iff.mpr ⟨body ++ closing ++ rest, by simp only [List.append_assoc], hparts⟩
    rw [hhit]
    exact Option.some_ne_none _

/-- Where no comment begins, no opening mark stands before a closing mark. -/
theorem not_isPrefix_of_miss {front behind : Text} (hmiss : between opening closing none (front ++ behind) = none)
    (hclosing : closing <:+: behind) : ¬ opening <+: front := by
  rintro ⟨more, rfl⟩
  obtain ⟨x, y, rfl⟩ := hclosing
  refine between_ne_none_iff.mpr ⟨more ++ x, y, ?_⟩ hmiss
  simp only [List.append_assoc]

theorem holdsComment_iff : HoldsComment opening closing t ↔ (between opening closing).FoundIn t := by
  have hbegins : ∀ place, between opening closing none place ≠ none ↔
      ∃ u, (∃ body, opening ++ body ++ closing = u) ∧ u <+: place := fun place => by
    rw [between_ne_none_iff, exists_exists_eq_and]
  rw [Pattern.foundIn_iff hbegins, exists_exists_eq_and, HoldsComment]

/-- A comment is taken from the text from left to right. -/
theorem between_steady (hopening : opening ≠ []) (closing : Text) : (between opening closing).Steady where
  ignores _ _ := rfl
  takes := by
    intro t hit h
    have hne : opening ++ hit.piece ++ closing ≠ [] :=
      List.append_ne_nil_of_left_ne_nil (List.append_ne_nil_of_left_ne_nil hopening _) _
    exact ⟨_, hne, eq_append_of_between h⟩

/-! ## Divisions -/

/-- A comment or a literal of a division, and the text between the one before it and its opening mark. -/
structure Segment where
  before : Text
  body : Text

/-- The comments or the literals of a text one after the other, and the text behind the last one. -/
structure Division where
  segments : List Segment
  last : Text

namespace Division

variable {d : Division}

/-- The whole text, with marks around each comment. -/
def whole (opening closing : Text) (d : Division) : Text :=
  d.segments.flatMap (fun s => s.before ++ opening ++ s.body ++ closing) ++ d.last

def bodies (d : Division) : List Text := d.segments.map Segment.body

/-- The text outside of the comments. -/
def outside (d : Division) : Text := d.segments.flatMap Segment.before ++ d.last

/-- The division of the text with one more character in front, outside of its comments. -/
def cons (c : Char) (d : Division) : Division :=
  match d.segments with
  | [] => ⟨[], c :: d.last⟩
  | s :: more => ⟨⟨c :: s.before, s.body⟩ :: more, d.last⟩

/-- The division of the text with one more comment in front. -/
def comment (body : Text) (d : Division) : Division := ⟨⟨[], body⟩ :: d.segments, d.last⟩

theorem whole_cons (c : Char) (d : Division) : (d.cons c).whole opening closing = c :: d.whole opening closing := by
  obtain ⟨_ | ⟨s, more⟩, last⟩ := d <;> rfl

theorem outside_cons (c : Char) (d : Division) : (d.cons c).outside = c :: d.outside := by
  obtain ⟨_ | ⟨s, more⟩, last⟩ := d <;> rfl

theorem bodies_cons (c : Char) (d : Division) : (d.cons c).bodies = d.bodies := by
  obtain ⟨_ | ⟨s, more⟩, last⟩ := d <;> rfl

theorem whole_comment (body : Text) (d : Division) :
    (d.comment body).whole opening closing = opening ++ body ++ closing ++ d.whole opening closing := by
  simp only [whole, comment, List.flatMap_cons, List.nil_append, List.append_assoc]

end Division

/-- A division of a text at its comments: the first opening mark behind a comment opens the next one, the first closing
mark behind it closes it, and no comment is left in the text behind the last one. -/
structure Divides (opening closing : Text) (d : Division) (t : Text) : Prop where
  whole : t = d.whole opening closing
  before : ∀ s ∈ d.segments, Text.FirstAt opening (s.before ++ opening) s.before.length
  body : ∀ s ∈ d.segments, Text.FirstAt closing (s.body ++ closing) s.body.length
  last : ¬ HoldsComment opening closing d.last

namespace Divides

variable {d : Division}

/-- No text between comments holds an opening mark, and no comment holds a closing mark. -/
theorem not_infix (hopening : opening ≠ []) (hclosing : closing ≠ []) (h : Divides opening closing d t)
    {s : Segment} (hs : s ∈ d.segments) : ¬ opening <:+: s.before ∧ ¬ closing <:+: s.body := by
  have go : ∀ {mark u : Text}, mark ≠ [] → Text.FirstAt mark (u ++ mark) u.length → ¬ mark <:+: u := by
    intro mark u hmark hfirst hmem
    obtain ⟨place, hplace⟩ := Text.exists_firstAt_iff.mpr hmem
    have hle := hplace.starts.length_le
    have hpos := List.length_pos_iff.mpr hmark
    rw [List.length_drop] at hle
    refine hfirst.noEarlier place (by omega) ?_
    rw [List.drop_append_of_le_length hplace.le]
    exact hplace.starts.trans (List.prefix_append _ _)
  exact ⟨go hopening (h.before s hs), go hclosing (h.body s hs)⟩

/-- Where no comment begins, the character stands outside of the comments. -/
theorem cons (h : Divides opening closing d rest) (hmiss : between opening closing none (c :: rest) = none) :
    Divides opening closing (d.cons c) (c :: rest) := by
  obtain ⟨hwhole, hbefore, hbody, hlast⟩ := h
  have hwhole' : c :: rest = (d.cons c).whole opening closing := by rw [Division.whole_cons, ← hwhole]
  obtain ⟨_ | ⟨s, more⟩, last⟩ := d
  · refine ⟨hwhole', hbefore, hbody, fun hholds => ?_⟩
    obtain rfl : rest = last := hwhole
    rcases Pattern.foundIn_cons_iff.mp (holdsComment_iff.mp hholds) with hhere | hlater
    · exact hhere hmiss
    · exact hlast (holdsComment_iff.mpr hlater)
  · obtain ⟨hfirst, hmore⟩ := List.forall_mem_cons.mp hbefore
    obtain ⟨hclosed, hmoreClosed⟩ := List.forall_mem_cons.mp hbody
    refine ⟨hwhole', List.forall_mem_cons.mpr ⟨Text.firstAt_cons_iff.mpr ⟨?_, hfirst⟩, hmore⟩,
      List.forall_mem_cons.mpr ⟨hclosed, hmoreClosed⟩, hlast⟩
    -- An opening mark that began at the character would be closed where the comment is.
    have hsplit : c :: rest = (c :: (s.before ++ opening)) ++
        (s.body ++ closing ++ (Division.mk more last).whole opening closing) := by
      rw [hwhole]
      simp only [Division.whole, List.flatMap_cons, List.append_assoc, List.cons_append]
    exact not_isPrefix_of_miss (hsplit ▸ hmiss) (List.infix_append s.body closing _)

/-- Where a comment is taken, it comes before the comments behind it. -/
theorem comment (h : Divides opening closing d hit.rest) (hhit : between opening closing none t = some hit) :
    Divides opening closing (d.comment hit.piece) t := by
  obtain ⟨hwhole, hbefore, hbody, hlast⟩ := h
  obtain ⟨behind, -, hcut⟩ := between_eq_some_iff.mp hhit
  obtain ⟨hbehind, hfirst⟩ := Text.cutAt?_eq_some_iff.mp hcut
  rw [hbehind] at hfirst
  have hclosed : Text.FirstAt closing (hit.piece ++ closing ++ []) hit.piece.length := hfirst.of_same_beginning
  rw [List.append_nil] at hclosed
  refine ⟨?_, List.forall_mem_cons.mpr ⟨?_, hbefore⟩, List.forall_mem_cons.mpr ⟨hclosed, hbody⟩, hlast⟩
  · rw [Division.whole_comment, ← hwhole]
    exact eq_append_of_between hhit
  · exact Text.firstAt_zero_iff.mpr List.prefix_rfl

end Divides

/-- Every text is divided at its comments. What is taken from the text are the bodies of the division, and what erasing
leaves is the text outside of the comments. -/
theorem exists_division (hopening : opening ≠ []) (closing t : Text) :
    ∃ d, Divides opening closing d t ∧ (between opening closing).pieces t = d.bodies ∧
      (between opening closing).erasing.replace t = d.outside := by
  have hsteady := between_steady hopening closing
  have herases := between_erasing_erases hopening closing
  induction t using hsteady.reading_induction with
  | nil =>
    refine ⟨⟨[], []⟩, ⟨rfl, ?_, ?_, ?_⟩, rfl, rfl⟩
    · exact fun s hs => (List.not_mem_nil hs).elim
    · exact fun s hs => (List.not_mem_nil hs).elim
    · rintro ⟨body, hbody⟩
      exact hopening (List.append_eq_nil_iff.mp (List.append_eq_nil_iff.mp (List.infix_nil.mp hbody)).1).1
  | miss c cs hmiss ih =>
    obtain ⟨d, hdivides, hpieces, hleft⟩ := ih
    have hstays : (between opening closing).erasing none (c :: cs) = none := Option.map_eq_none_iff.mpr hmiss
    refine ⟨d.cons c, hdivides.cons hmiss, ?_, ?_⟩
    · rw [hsteady.pieces_of_miss hmiss, hpieces, Division.bodies_cons]
    · rw [herases.replace_of_miss hstays, hleft, Division.outside_cons]
  | hit t hit hhit ih =>
    obtain ⟨d, hdivides, hpieces, hleft⟩ := ih
    have herased : (between opening closing).erasing none t = some ⟨[], hit.rest⟩ :=
      Option.map_eq_some_iff.mpr ⟨hit, hhit, rfl⟩
    refine ⟨d.comment hit.piece, hdivides.comment hhit, ?_, ?_⟩
    · rw [hsteady.pieces_of_hit hhit, hpieces]
      rfl
    · rw [herases.replace_of_hit herased, List.nil_append, hleft]
      rfl

namespace JavaScript

/-- A source is divided at its block comments. They are the block comments that are read from it, trimmed, and without
comments each line of the text outside of them is left up to its first line comment. -/
theorem comments_of_division (t : Text) :
    ∃ d, Divides "/*".toList "*/".toList d t ∧
      (∀ s ∈ d.segments, ¬ "/*".toList <:+: s.before ∧ ¬ "*/".toList <:+: s.body) ∧
      blockComments "/*".toList "*/".toList t = d.bodies.map Text.trim ∧
      stripComments t = Text.join ['\n'] ((Text.lines d.outside).map (upTo "//".toList)) ∧
      ¬ "//".toList <:+: stripComments t := by
  have hopening : "/*".toList ≠ [] := by decide
  have hmark : "//".toList ≠ [] := by decide
  have hfeed : '\n' ∉ "//".toList := by decide
  obtain ⟨d, hdivides, hpieces, hleft⟩ := exists_division hopening "*/".toList t
  refine ⟨d, hdivides, fun s hs => hdivides.not_infix hopening (by decide) hs, ?_, ?_, ?_⟩
  · rw [blockComments, if_neg fun h => hopening h.1, hpieces]
  · rw [stripComments, hleft, replace_toLineEnd hmark hfeed]
  · exact not_infix_replace_toLineEnd hmark hfeed _

/-- The closing mark of a comment shares no character with its opening mark. -/
example : blockComments "/*".toList "*/".toList "a /*/ b */ c /* d // e".toList = ["/ b".toList] ∧
    stripComments "a /*/ b */ c /* d // e".toList = "a  c /* d ".toList := by decide +kernel

end JavaScript

end Wording.Tokens
