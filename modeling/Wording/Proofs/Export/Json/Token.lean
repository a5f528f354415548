import Wording.Export.Json
import Wording.Proofs.Export.Json.Number
import Mathlib.Data.List.Forall2

/-! # The tokens of written documents

A written string is read as the code units of its characters, which give the characters back, and a written number as
its text; a number is complete when something follows that no number holds. So the tokens of a document are those of its
value, whatever the indentation.

The reader is a fold over characters whose state is the tokens so far and the one at hand. `WritesTokens` says that a
text moves it from any state between tokens to one with some more tokens, and such texts can be put in a row
(`WritesTokens.append`); gaps write none. A number has to be treated apart, as it is at hand until something ends it:
`StandsBehind` says which states a text may follow.
-/

set_option autoImplicit false

namespace Wording

namespace Text

/-- The code units of a character: its code point, or beyond the basic plane the halves of a pair. -/
def codeUnits (c : Char) : List Nat :=
  if c.toNat < 0x10000 then [c.toNat]
  else [0xD800 + (c.toNat - 0x10000) / 0x400, 0xDC00 + (c.toNat - 0x10000) % 0x400]

/-- A code point that is no high half stands for a character by itself. -/
theorem ofCodePoints_cons {n : Nat} (h : isHighHalf n = false) (rest : List Nat) :
    ofCodePoints (n :: rest) = readable n :: ofCodePoints rest := by
  cases rest with
  | nil => rfl
  | cons low rest => rw [ofCodePoints, h, Bool.false_and, if_neg Bool.false_ne_true]

theorem isHalf_toNat (c : Char) : isHalf c.toNat = false := by
  have h : c.toNat < 0xD800 ∨ 0xDFFF < c.toNat ∧ c.toNat < 0x110000 := c.valid
  rw [isHalf, isHighHalf, isLowHalf, Bool.eq_false_iff]
  simp only [ne_eq, Bool.or_eq_true, Bool.and_eq_true, decide_eq_true_eq]
  omega

/-- The code units of a text give the text back. -/
theorem ofCodePoints_flatMap_codeUnits (t : Text) : ofCodePoints (t.flatMap codeUnits) = t := by
  induction t with
  | nil => rfl
  | cons c cs ih =>
    rw [List.flatMap_cons, codeUnits]
    split
    next =>
      have hhalf := isHalf_toNat c
      rw [List.singleton_append, ofCodePoints_cons (Bool.or_eq_false_iff.mp hhalf).1, ih, readable, hhalf,
        if_neg Bool.false_ne_true, Char.ofNat_toNat]
    next hlarge =>
      have hvalid : c.toNat < 0xD800 ∨ 0xDFFF < c.toNat ∧ c.toNat < 0x110000 := c.valid
      have hhigh : isHighHalf (0xD800 + (c.toNat - 0x10000) / 0x400) = true := by
        rw [isHighHalf, Bool.and_eq_true, decide_eq_true_eq, decide_eq_true_eq]
        omega
      have hlow : isLowHalf (0xDC00 + (c.toNat - 0x10000) % 0x400) = true := by
        rw [isLowHalf, Bool.and_eq_true, decide_eq_true_eq, decide_eq_true_eq]
        omega
      have hcode : 0x10000 + (0xD800 + (c.toNat - 0x10000) / 0x400 - 0xD800) * 0x400 +
          (0xDC00 + (c.toNat - 0x10000) % 0x400 - 0xDC00) = c.toNat := by omega
      rw [List.cons_append, List.singleton_append, ofCodePoints, hhigh, hlow, hcode, Char.ofNat_toNat, ih]
      rfl

end Text

namespace Export.Json

open TokenReading

/-! ## Strings -/

theorem hexValue?_digitChar : ∀ d < 16, Text.hexValue? (Nat.digitChar d) = some d := by decide

/-- Inside a string, the code unit of a number of sixteen bits is read as this number. -/
theorem foldlM_codeUnit {n : Nat} (h : n < 0x10000) (codes : List Nat) (tokens : List Token) :
    (codeUnit n).foldlM step ⟨.inString codes, tokens⟩ = some ⟨.inString (codes ++ [n]), tokens⟩ := by
  have hdigits : ∀ a b c d, a < 16 → b < 16 → c < 16 → d < 16 →
      (['\\', 'u'] ++ [a, b, c, d].map Nat.digitChar).foldlM step ⟨.inString codes, tokens⟩ =
        some ⟨.inString (codes ++ [Text.ofDigitValues 16 [a, b, c, d]]), tokens⟩ := by
    intro a b c d ha hb hc hd
    have hbackslash : step ⟨.inString codes, tokens⟩ '\\' = some ⟨.behindBackslash codes, tokens⟩ := rfl
    have hsign : step ⟨.behindBackslash codes, tokens⟩ 'u' = some ⟨.inCodeUnit codes [], tokens⟩ := rfl
    simp only [List.cons_append, List.nil_append, List.map_cons, List.map_nil, List.foldlM_cons, List.foldlM_nil,
      bind_pure, hbackslash, hsign, Option.bind_eq_bind, Option.bind_some]
    simp only [step, hexValue?_digitChar, ha, hb, hc, hd, Option.map_some]
    rfl
  have hvalue : Text.ofDigitValues 16 [n / 16 / 16 / 16, n / 16 / 16 % 16, n / 16 % 16, n % 16] = n := by
    simp only [Text.ofDigitValues, List.foldl_cons, List.foldl_nil]
    omega
  have hwritten : codeUnit n = ['\\', 'u'] ++
      [n / 16 / 16 / 16, n / 16 / 16 % 16, n / 16 % 16, n % 16].map Nat.digitChar := by
    rw [codeUnit, Text.hexPadded_four h]
    rfl
  rw [hwritten, hdigits _ _ _ _ (by omega) (by omega) (by omega) (by omega), hvalue]

/-- Inside a string, a written character is read as its code units. -/
theorem foldlM_charText (c : Char) (codes : List Nat) (tokens : List Token) :
    (charText c).foldlM step ⟨.inString codes, tokens⟩ =
      some ⟨.inString (codes ++ Text.codeUnits c), tokens⟩ := by
  rw [charText]
  split
  next h =>
    rw [Bool.or_eq_true, decide_eq_true_eq, decide_eq_true_eq] at h
    rcases h with rfl | rfl <;> rfl
  next hmarks =>
    rw [Bool.or_eq_true, decide_eq_true_eq, decide_eq_true_eq, not_or] at hmarks
    iterate 5 (split; next h => rw [h]; rfl)
    split
    next hprinted =>
      rw [Bool.and_eq_true, decide_eq_true_eq, decide_eq_true_eq] at hprinted
      have hlow : ¬ c.toNat < 0x20 := Nat.not_lt.mpr hprinted.1
      have hbasic : c.toNat < 0x10000 := Nat.lt_of_le_of_lt hprinted.2 (by decide)
      simp only [List.foldlM_cons, List.foldlM_nil, step, if_neg hmarks.1, if_neg hmarks.2, if_neg hlow, bind_pure,
        Text.codeUnits, if_pos hbasic]
    split
    next hbasic => rw [foldlM_codeUnit hbasic, Text.codeUnits, if_pos hbasic]
    next hlarge =>
      have hvalid : c.toNat < 0xD800 ∨ 0xDFFF < c.toNat ∧ c.toNat < 0x110000 := c.valid
      rw [List.foldlM_append, foldlM_codeUnit (by omega), Option.bind_eq_bind, Option.bind_some,
        foldlM_codeUnit (by omega), List.append_assoc, Text.codeUnits, if_neg hlarge]
      rfl

/-! ## Behind tokens -/

/-- That the reader stands behind some tokens: between tokens, or in a number that is the last of them. -/
inductive StandsBehind : List Token → TokenReading → Prop
  | between (tokens : List Token) : StandsBehind tokens ⟨.between, tokens⟩
  | inNumber (tokens : List Token) {t : Text} (h : isNumber t = true) :
    StandsBehind (tokens ++ [.number t]) ⟨.inNumber t, tokens⟩

namespace StandsBehind

variable {tokens : List Token} {r : TokenReading}

/-- The tokens that the reader stands behind are those at the end of the text. -/
theorem finish?_eq (h : StandsBehind tokens r) : r.finish? = some tokens := by
  cases h with
  | between => rfl
  | inNumber before hnumber => exact if_pos hnumber

/-- With a character that no number holds, the reader goes on as from between tokens. -/
theorem foldlM_eq (h : StandsBehind tokens r) {c : Char} (hc : isNumberChar c = false) (rest : Text) :
    (c :: rest).foldlM step r = (c :: rest).foldlM step ⟨.between, tokens⟩ := by
  cases h with
  | between => rfl
  | inNumber before hnumber =>
    rw [List.foldlM_cons, List.foldlM_cons]
    simp only [step, hc, Bool.false_eq_true, if_false, if_pos hnumber]

end StandsBehind

/-- That a text writes some tokens: from between tokens, the reader comes behind them. -/
def WritesTokens (written : Text) (tokens : List Token) : Prop :=
  ∀ before, ∃ r, StandsBehind (before ++ tokens) r ∧ written.foldlM step ⟨.between, before⟩ = some r

/-- That a text is punctuation: also out of a number, the reader comes with some more tokens between tokens. -/
def Punctuates (written : Text) (tokens : List Token) : Prop :=
  ∀ before r, StandsBehind before r → written.foldlM step r = some ⟨.between, before ++ tokens⟩

theorem writesTokens_nil : WritesTokens [] [] := by
  intro before
  rw [List.append_nil]
  exact ⟨_, .between before, rfl⟩

/-- Two texts with punctuation between them write the tokens of all three. -/
theorem WritesTokens.append {first punctuation second : Text} {before between behind : List Token}
    (hfirst : WritesTokens first before) (hpunctuation : Punctuates punctuation between)
    (hsecond : WritesTokens second behind) :
    WritesTokens (first ++ punctuation ++ second) (before ++ between ++ behind) := by
  intro tokens
  obtain ⟨r, hstands, hread⟩ := hfirst tokens
  obtain ⟨last, hlast, hrest⟩ := hsecond (tokens ++ before ++ between)
  refine ⟨last, ?_, ?_⟩
  · simpa only [List.append_assoc] using hlast
  · rw [List.foldlM_append, List.foldlM_append, hread, Option.bind_eq_bind, Option.bind_some,
      hpunctuation _ r hstands, Option.bind_some, hrest]

/-- Written texts with commas between them write their tokens with commas between them. -/
theorem writesTokens_join {separator : Text} (hseparator : Punctuates separator [.comma]) {written : List Text}
    {tokens : List (List Token)} (h : List.Forall₂ WritesTokens written tokens) (hne : written ≠ []) :
    WritesTokens (Text.join separator written) ([Token.comma].intercalate tokens) := by
  induction h with
  | nil => exact absurd rfl hne
  | @cons first before rest behind hfirst hrest ih =>
    cases hrest with
    | nil =>
      rw [Text.join, List.intercalate_singleton]
      exact hfirst
    | cons hsecond hothers =>
      rw [Text.join, List.intercalate_cons_cons]
      exact hfirst.append hseparator (ih (List.cons_ne_nil _ _))

/-! ## Punctuation -/

/-- That a text is blank: spaces and line feeds. -/
def IsGap (t : Text) : Prop := ∀ c ∈ t, c = ' ' ∨ c = '\n'

theorem foldlM_isGap {t : Text} (h : IsGap t) (tokens : List Token) :
    t.foldlM step ⟨.between, tokens⟩ = some ⟨.between, tokens⟩ := by
  induction t with
  | nil => rfl
  | cons c cs ih =>
    have hskip : step ⟨.between, tokens⟩ c = some ⟨.between, tokens⟩ := by
      rcases h c List.mem_cons_self with rfl | rfl <;> rfl
    rw [List.foldlM_cons, hskip, Option.bind_eq_bind, Option.bind_some, ih fun d hd => h d (List.mem_cons_of_mem _ hd)]

/-- That a character is the mark of a token. -/
def Marks (c : Char) (token : Token) : Prop :=
  isNumberChar c = false ∧ ∀ tokens, stepBetween tokens c = some ⟨.between, tokens ++ [token]⟩

theorem punctuates_mark {before behind : Text} (hbefore : IsGap before) (hbehind : IsGap behind) {c : Char}
    {token : Token} (hmark : Marks c token) : Punctuates (before ++ c :: behind) [token] := by
  obtain ⟨hc, hstep⟩ := hmark
  intro tokens r hstands
  have hread : (before ++ c :: behind).foldlM step ⟨.between, tokens⟩ = some ⟨.between, tokens ++ [token]⟩ := by
    have hmark : step ⟨.between, tokens⟩ c = some ⟨.between, tokens ++ [token]⟩ := hstep tokens
    rw [List.foldlM_append, foldlM_isGap hbefore, Option.bind_eq_bind, Option.bind_some, List.foldlM_cons, hmark,
      Option.bind_eq_bind, Option.bind_some, foldlM_isGap hbehind]
  rw [← hread]
  -- A number ends with the first character, be it blank or the mark.
  cases before with
  | nil => exact hstands.foldlM_eq hc _
  | cons d rest =>
    refine hstands.foldlM_eq ?_ _
    rcases hbefore d List.mem_cons_self with rfl | rfl <;> rfl

theorem isGap_nil : IsGap [] := nofun

theorem isGap_gaps (indent : Option Int) (depth : Nat) :
    IsGap (gaps indent depth).before ∧ (∃ gap, IsGap gap ∧ (gaps indent depth).between = ',' :: gap) ∧
      IsGap (gaps indent depth).behind := by
  cases indent with
  | none => exact ⟨isGap_nil, ⟨[' '], fun c hc => Or.inl (List.mem_singleton.mp hc), rfl⟩, isGap_nil⟩
  | some n =>
    have hline : ∀ blanks, IsGap ('\n' :: List.replicate blanks ' ') := by
      intro blanks c hc
      exact (List.mem_cons.mp hc).elim Or.inr fun h => Or.inl (List.eq_of_mem_replicate h)
    exact ⟨hline _, ⟨_, hline _, rfl⟩, hline _⟩

/-- Written texts between two brackets write their tokens, with commas between them, between the tokens of the
brackets. -/
theorem writesTokens_bracketed {opening closing : Char} {first last : Token} (hopening : Marks opening first)
    (hclosing : Marks closing last) (indent : Option Int) (depth : Nat) {written : List Text}
    {tokens : List (List Token)} (h : List.Forall₂ WritesTokens written tokens) :
    WritesTokens (bracketed opening closing (gaps indent depth) written)
      (first :: [Token.comma].intercalate tokens ++ [last]) := by
  obtain ⟨hbefore, ⟨gap, hgap, hbetween⟩, hbehind⟩ := isGap_gaps indent depth
  have hopen : Punctuates (opening :: (gaps indent depth).before) [first] :=
    punctuates_mark isGap_nil hbefore hopening
  have hclose : Punctuates ((gaps indent depth).behind ++ [closing]) [last] :=
    punctuates_mark hbehind isGap_nil hclosing
  have hcomma : Punctuates (gaps indent depth).between [.comma] := by
    rw [hbetween]
    exact punctuates_mark isGap_nil hgap ⟨rfl, fun _ => rfl⟩
  rw [bracketed]
  split
  next hnone =>
    rw [hnone, List.forall₂_nil_left_iff] at h
    rw [h]
    exact (writesTokens_nil.append (punctuates_mark isGap_nil isGap_nil hopening) writesTokens_nil).append
      (punctuates_mark isGap_nil isGap_nil hclosing) writesTokens_nil
  next hne =>
    have hall := (writesTokens_nil.append hopen (writesTokens_join hcomma h hne)).append hclose writesTokens_nil
    simpa only [List.nil_append, List.append_nil, List.append_assoc, List.cons_append] using hall

/-! ## Documents -/

mutual

/-- The tokens of a value. -/
def tokens : Json → List Token
  | .number t => [.number t]
  | .string t => [.string t]
  | .array items => .openArray :: [Token.comma].intercalate (itemTokens items) ++ [.closeArray]
  | .object fields => .openObject :: [Token.comma].intercalate (fieldTokens fields) ++ [.closeObject]

def itemTokens : List Json → List (List Token)
  | [] => []
  | item :: rest => tokens item :: itemTokens rest

def fieldTokens : List (Text × Json) → List (List Token)
  | [] => []
  | (key, v) :: rest => (.string key :: .colon :: tokens v) :: fieldTokens rest

end

/-- That every number of a value is written as a number. -/
inductive WellFormed : Json → Prop
  | number {t : Text} (h : isNumber t = true) : WellFormed (.number t)
  | string (t : Text) : WellFormed (.string t)
  | array {items : List Json} (h : ∀ v ∈ items, WellFormed v) : WellFormed (.array items)
  | object {fields : List (Text × Json)} (h : ∀ field ∈ fields, WellFormed field.2) : WellFormed (.object fields)

theorem itemTexts_eq_map (indent : Option Int) (depth : Nat) (items : List Json) :
    itemTexts indent depth items = items.map (textAt indent depth) := by
  induction items with
  | nil => rfl
  | cons item rest ih => rw [itemTexts, ih, List.map_cons]

/-- The texts of fields are those of each field: the key, a colon, and the value. -/
theorem fieldTexts_eq_map (indent : Option Int) (depth : Nat) (fields : List (Text × Json)) :
    fieldTexts indent depth fields =
      fields.map fun field => stringText field.1 ++ [':', ' '] ++ textAt indent depth field.2 := by
  induction fields with
  | nil => rfl
  | cons field rest ih => rw [fieldTexts, ih, List.map_cons]

theorem itemTokens_eq_map (items : List Json) : itemTokens items = items.map tokens := by
  induction items with
  | nil => rfl
  | cons item rest ih => rw [itemTokens, ih, List.map_cons]

/-- The tokens of fields are those of each field: the key, a colon, and the value. -/
theorem fieldTokens_eq_map (fields : List (Text × Json)) :
    fieldTokens fields = fields.map fun field => .string field.1 :: .colon :: tokens field.2 := by
  induction fields with
  | nil => rfl
  | cons field rest ih => rw [fieldTokens, ih, List.map_cons]

theorem writesTokens_stringText (t : Text) : WritesTokens (stringText t) [.string t] := by
  intro before
  have hopen : step ⟨.between, before⟩ '"' = some ⟨.inString [], before⟩ := rfl
  have hclose : ∀ codes, step ⟨.inString codes, before⟩ '"' =
      some ⟨.between, before ++ [.string (Text.ofCodePoints codes)]⟩ := fun _ => rfl
  have hchars : ∀ (cs : Text) (codes : List Nat), (cs.flatMap charText).foldlM step ⟨.inString codes, before⟩ =
      some ⟨.inString (codes ++ cs.flatMap Text.codeUnits), before⟩ := by
    intro cs
    induction cs with
    | nil =>
      intro codes
      rw [List.flatMap_nil, List.flatMap_nil, List.append_nil, List.foldlM_nil, Option.pure_def]
    | cons c cs ih =>
      intro codes
      rw [List.flatMap_cons, List.foldlM_append, foldlM_charText, Option.bind_eq_bind, Option.bind_some, ih,
        List.flatMap_cons, List.append_assoc]
  refine ⟨_, .between _, ?_⟩
  simp only [stringText, List.cons_append, List.foldlM_cons, List.foldlM_append, List.foldlM_nil, hopen, hchars,
    hclose, Option.bind_eq_bind, Option.bind_some, List.nil_append, Text.ofCodePoints_flatMap_codeUnits,
    Option.pure_def]

theorem writesTokens_number {t : Text} (h : isNumber t = true) : WritesTokens t [.number t] := by
  intro before
  refine ⟨_, .inNumber before h, ?_⟩
  obtain ⟨c, rest, rfl, hfirst, hrest⟩ := exists_cons_of_isNumber h
  have hbegin : step ⟨.between, before⟩ c = some ⟨.inNumber [c], before⟩ := by
    simp only [step, stepBetween]
    split <;> first
      | exact absurd hfirst (by decide)
      | exact if_pos (by simpa only [Bool.or_eq_true, decide_eq_true_eq] using hfirst)
  have hgoesOn : ∀ (more t : Text), (∀ d ∈ more, isNumberChar d = true) →
      more.foldlM step ⟨.inNumber t, before⟩ = some ⟨.inNumber (t ++ more), before⟩ := by
    intro more
    induction more with
    | nil =>
      intro t _
      rw [List.append_nil, List.foldlM_nil, Option.pure_def]
    | cons d ds ih =>
      intro t hmore
      have hnext : step ⟨.inNumber t, before⟩ d = some ⟨.inNumber (t ++ [d]), before⟩ :=
        if_pos (hmore d List.mem_cons_self)
      rw [List.foldlM_cons, hnext, Option.bind_eq_bind, Option.bind_some,
        ih _ fun e he => hmore e (List.mem_cons_of_mem _ he), List.append_assoc, List.singleton_append]
  rw [List.foldlM_cons, hbegin, Option.bind_eq_bind, Option.bind_some, hgoesOn _ _ hrest, List.singleton_append]

/-- A written value writes the tokens of the value. -/
theorem writesTokens_textAt {v : Json} (h : WellFormed v) (indent : Option Int) (depth : Nat) :
    WritesTokens (textAt indent depth v) (tokens v) := by
  induction h generalizing depth with
  | number hnumber => exact writesTokens_number hnumber
  | string t => exact writesTokens_stringText t
  | array _ ih =>
    apply writesTokens_bracketed ⟨rfl, fun _ => rfl⟩ ⟨rfl, fun _ => rfl⟩
    rw [itemTexts_eq_map, itemTokens_eq_map, List.forall₂_map_left_iff, List.forall₂_map_right_iff, List.forall₂_same]
    exact fun v hv => ih v hv (depth + 1)
  | object _ ih =>
    apply writesTokens_bracketed ⟨rfl, fun _ => rfl⟩ ⟨rfl, fun _ => rfl⟩
    rw [fieldTexts_eq_map, fieldTokens_eq_map, List.forall₂_map_left_iff, List.forall₂_map_right_iff,
      List.forall₂_same]
    intro field hfield
    have hcolon : Punctuates [':', ' '] [.colon] :=
      punctuates_mark isGap_nil (fun c hc => Or.inl (List.mem_singleton.mp hc)) ⟨rfl, fun _ => rfl⟩
    exact (writesTokens_stringText field.1).append hcolon (ih field hfield (depth + 1))

/-- The tokens of a written document are those of its value. -/
theorem tokens?_text {v : Json} (h : WellFormed v) (indent : Option Int) :
    tokens? (text indent v) = some (tokens v) := by
  obtain ⟨r, hstands, hread⟩ := writesTokens_textAt h indent 0 []
  rw [tokens?, text, hread, Option.bind_eq_bind, Option.bind_some, hstands.finish?_eq, List.nil_append]

end Export.Json

end Wording
