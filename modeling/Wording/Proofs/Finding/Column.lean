import Wording.Settings.Builtin
import Wording.Proofs.Text.Lowercase
import Wording.Proofs.Finding.Locate

/-! # The columns of findings without letter case

A column counts the characters of the small form of the line, and the capital I with a dot has a small form of two
characters. So all findings at a line name pieces of the line itself exactly when it has no such letter and its pieces
are made small alone as they are in it, which holds of every line without the capital sigma.

In one direction, a line of which pieces are made small alone gives the piece at a column by the length of what stands
before it (`PointsTo.namesPieceOf`). In the other, if there is a capital I with a dot then a text that ends with a small
i is found up to the first half of its small form (`not_columnsNamePiecesOf_of_dottedI`), where no piece of the line
ends; and if there is none, the findings of all pieces show that these are made small alone.
-/

set_option autoImplicit false

namespace Wording

/-- That a finding names a place of a line from which on some piece has the small form of its content. -/
def Finding.NamesPieceOf (f : Finding) (line : Text) : Prop :=
  f.column ≤ line.length ∧
    ∃ size, Text.lower ((line.drop f.column.toNat).take size) = Text.lower f.content

namespace Settings

/-- That all findings without letter case at a line name pieces of that line. -/
def ColumnsNamePiecesOf (line : Text) : Prop :=
  ∀ s : Settings, s.caseSensitive = false → ∀ kind token term lines,
    ∀ f ∈ s.matcher.locate kind token term lines, ∀ place : Nat, f.line = place + 1 →
      lines[place]? = some line → f.NamesPieceOf line

variable {s : Settings} {f : Finding} {lines : List Text} {place : Nat} {line : Text} {column : Nat}

/-- Without letter case, the small form of the content stands first at the column of the small form of the
line. -/
theorem PointsTo.first_lower (hs : s.caseSensitive = false) (h : s.PointsTo lines f place line column) :
    Text.FirstAt (Text.lower f.content) (Text.lower line) column := by
  have hfirst := h.first
  rw [fold_of_not_caseSensitive hs, fold_of_not_caseSensitive hs] at hfirst
  exact hfirst

theorem PointsTo.column_toNat (h : s.PointsTo lines f place line column) : f.column.toNat = column := by
  rw [h.column_eq]
  rfl

/-- Without letter case, a finding at a line without the capital I with a dot names a piece of that line if the
line is made small in pieces. -/
theorem PointsTo.namesPieceOf (hs : s.caseSensitive = false) (h : s.PointsTo lines f place line column)
    (hdot : 'İ' ∉ line) (hpieces : Text.LowersInPieces line) : f.NamesPieceOf line := by
  have hfirst := h.first_lower hs
  have hlength := Text.length_lower line
  rw [List.count_eq_zero.mpr hdot, Nat.add_zero] at hlength
  have himage : Text.lower f.content =
      ((Text.lower line).drop column).take (Text.lower f.content).length :=
    List.prefix_iff_eq_take.mp hfirst.starts
  unfold Finding.NamesPieceOf
  rw [h.column_toNat, h.column_eq]
  constructor
  · have hle := hfirst.le
    rw [hlength] at hle
    exact Int.ofNat_le.mpr hle
  · refine ⟨(Text.lower f.content).length, ?_⟩
    rw [hpieces column _ (himage ▸ hfirst), ← himage]

/-- All findings at a line without the capital I with a dot name pieces of it if it is made small in pieces. -/
theorem columnsNamePiecesOf_of_lowersInPieces (hdot : 'İ' ∉ line) (hpieces : Text.LowersInPieces line) :
    ColumnsNamePiecesOf line := by
  intro s hs kind token term lines f hf place hplace hat
  obtain ⟨-, -, other, found, column, hpoints⟩ := mem_locate_iff.mp hf
  obtain rfl : other = place := by
    have hline := hpoints.line_eq
    omega
  obtain rfl : found = line := Option.some.inj (hpoints.line_at.symm.trans hat)
  exact hpoints.namesPieceOf hs hdot hpieces

/-- If findings name pieces of a line, then every text that is not blank names one from the first column on at
which its small form stands in the small form of the line. -/
theorem ColumnsNamePiecesOf.exists_size (h : ColumnsNamePiecesOf line) {token : Text}
    (hblank : Text.isAllBlank token = false)
    (hfirst : Text.FirstAt (Text.lower token) (Text.lower line) column) :
    column ≤ line.length ∧ ∃ size, Text.lower ((line.drop column).take size) = Text.lower token := by
  let term : Term := ⟨[], token, .other, .low, [], hblank⟩
  let found : Finding := ⟨.string, 1, column, token, Text.trim line, term⟩
  have hpoints : empty.PointsTo [line] found 0 line column := ⟨rfl, rfl, rfl, rfl, hfirst⟩
  have hholds : empty.matcher.holds token term = true := holds_iff.mpr List.infix_rfl
  have hmem : found ∈ empty.matcher.locate .string token term [line] :=
    mem_locate_iff.mpr
      ⟨⟨term.text_ne_nil, hholds⟩, ⟨rfl, rfl, rfl⟩, 0, line, column, hpoints⟩
  obtain ⟨hle, size, hsize⟩ := h empty rfl _ _ _ _ found hmem 0 rfl rfl
  rw [hpoints.column_toNat] at hsize
  exact ⟨Int.ofNat_le.mp hle, size, hsize⟩

/-- Findings do not all name pieces of a line with a capital I with a dot: a text that ends with a small i is
found in the line up to the first half of that letter's small form. -/
theorem not_columnsNamePiecesOf_of_dottedI (h : 'İ' ∈ line) : ¬ ColumnsNamePiecesOf line := by
  intro hall
  obtain ⟨before, after, rfl, hdot⟩ := List.eq_append_cons_of_mem h
  obtain ⟨u, hu, hspelled⟩ := Text.exists_spelling hdot [] ('İ' :: after)
  have hlower : Text.lower (before ++ 'İ' :: after) = _ := hspelled
  -- The token goes one character further than the small form of what stands before the letter.
  have htoken : Text.lower (u ++ ['i']) = Text.lower u ++ ['i'] := by
    have hi : Text.smallLetter 'i' = 'i' := by decide
    have hdot' : 'İ' ∉ u ++ ['i'] := by simp [hu.dot_notMem]
    have hsigma' : 'Σ' ∉ u ++ ['i'] := by simp [hu.sigma_notMem]
    rw [Text.lower_eq_map hdot' hsigma', List.map_append, ← hu.lower_eq, List.map_singleton, hi]
  have hfirst : Text.FirstAt (Text.lower (u ++ ['i'])) (Text.lower (before ++ 'İ' :: after)) 0 := by
    apply Text.firstAt_zero_iff.mpr
    rw [htoken, hlower]
    exact (List.prefix_append_right_inj _).mpr ⟨_, rfl⟩
  have hblank : Text.isAllBlank (u ++ ['i']) = false := by
    have hi : Text.isBlank 'i' = false := by decide
    simp [Text.isAllBlank, hi]
  obtain ⟨-, size, hsize⟩ := hall.exists_size hblank hfirst
  have hlength := congrArg List.length hsize
  rw [htoken, List.drop_zero, List.length_append, hu.lower_eq, List.length_map, hu.length_eq,
    List.length_singleton] at hlength
  exact Text.length_lower_take_ne hdot after size hlength

/-- If findings name pieces of a line, then the line is made small in pieces. -/
theorem ColumnsNamePiecesOf.lowersInPieces (h : ColumnsNamePiecesOf line) (hdot : 'İ' ∉ line) :
    Text.LowersInPieces line := by
  intro column size hfirst
  have hlength := Text.length_lower line
  rw [List.count_eq_zero.mpr hdot, Nat.add_zero] at hlength
  have hcolumn : column ≤ line.length := hlength ▸ hfirst.le
  obtain ⟨u, hu, himage⟩ := Text.exists_spelling_of_piece hdot hcolumn size
  rw [himage] at hfirst ⊢
  rcases hu.same with rfl | hblank
  · rfl
  · obtain ⟨-, other, hother⟩ := h.exists_size hblank hfirst
    -- Without the capital I with a dot, a piece is as long as its small form.
    have hlengths := congrArg List.length hother
    have hpiece : ((line.drop column).take other).count 'İ' = 0 :=
      List.count_eq_zero.mpr fun hmem => hdot (List.mem_of_mem_drop (List.mem_of_mem_take hmem))
    rw [Text.length_lower, hpiece, Nat.add_zero, hu.lower_eq, List.length_map, hu.length_eq,
      List.length_take, List.length_take] at hlengths
    rw [← List.take_eq_take_iff.mpr hlengths, hother]

/-- Without letter case, all findings at a line name pieces of that line exactly when the line has no capital I
with a dot and is made small in pieces. Lines without that letter and without the capital sigma are. -/
theorem columns_of_locate_ignoringCase (line : Text) :
    (ColumnsNamePiecesOf line ↔ 'İ' ∉ line ∧ Text.LowersInPieces line) ∧
      ('İ' ∉ line → 'Σ' ∉ line → Text.LowersInPieces line) := by
  refine ⟨⟨?_, ?_⟩, Text.lowersInPieces⟩
  · intro hall
    have hdot : 'İ' ∉ line := fun h => not_columnsNamePiecesOf_of_dottedI h hall
    exact ⟨hdot, hall.lowersInPieces hdot⟩
  · rintro ⟨hdot, hpieces⟩
    exact columnsNamePiecesOf_of_lowersInPieces hdot hpieces

/-- All findings at a line of ASCII name pieces of it. -/
theorem columns_of_locate_ignoringCase_ascii :
    ColumnsNamePiecesOf "node = new MASTERNODE()".toList := by
  have hline := columns_of_locate_ignoringCase "node = new MASTERNODE()".toList
  exact hline.1.mpr ⟨by decide, hline.2 (by decide) (by decide)⟩

/-- A finding behind a capital I with a dot is one column too far, and no piece of the line from there on has
the small form of its content. -/
theorem locate_behind_dottedI :
    ∃ f, empty.matcher.locate .string "man".toList ⟨[], "man".toList, .other, .low, [], rfl⟩ ["İman".toList] = [f] ∧
      f.column = 2 ∧ ¬ f.NamesPieceOf "İman".toList ∧
      Text.lower (("İman".toList.drop 1).take 3) = Text.lower f.content := by
  refine ⟨⟨.string, 1, 2, "man".toList, "İman".toList, ⟨[], "man".toList, .other, .low, [], rfl⟩⟩,
    by decide, rfl, ?_, by decide⟩
  rintro ⟨-, size, hsize⟩
  change Text.lower (['a', 'n'].take size) = Text.lower "man".toList at hsize
  rcases size with _ | _ | size
  · exact absurd hsize (by decide)
  · exact absurd hsize (by decide)
  · rw [List.take_of_length_le (by simp)] at hsize
    exact absurd hsize (by decide)

end Settings

end Wording
