import Wording.Tokens.TypeScript
import Wording.Tokens.Python
import Wording.Proofs.Tokens.Name

/-! # Names where they stand in a text

A name before a mark is found exactly where no name ends right before it, and a name behind a point exactly where no
character of names follows it. Reading comes past everything before such a place, since what it takes ends with a mark,
or begins with a point, that stands in no name (`Solid.exists_noneEnds_of_reaches`). So no language misses a name that
is called, that is a member, or that is a key or assigned to.

`FindsAll` says this of a whole reading of identifiers: names that stand before one of some marks, or behind a point,
are identifiers unless they are keywords. It is proved of every collection of names whose patterns look there, and the
three languages only differ in their marks and their keywords.
-/

set_option autoImplicit false

namespace Wording.Tokens

open Text (isBlank)

/-! ## Parts of names -/

namespace Alphabet

variable {a : Alphabet} {mark : Char} {name t front u v : Text} {before : Option Char} {hit : Hit}

theorem isName_append (hu : a.isName u = true) (hv : ∀ c ∈ v, a.later c = true) : a.isName (u ++ v) = true := by
  cases u with
  | nil => cases hu
  | cons c cs =>
    obtain ⟨hc, hcs⟩ := Bool.and_eq_true_iff.mp hu
    rw [List.cons_append, isName, hc, Bool.true_and, List.all_append, hcs, Bool.true_and]
    exact List.all_eq_true.mpr hv

theorem isName_of_append (hu : u ≠ []) (h : a.isName (u ++ v) = true) : a.isName u = true := by
  cases u with
  | nil => exact absurd rfl hu
  | cons c cs =>
    obtain ⟨hc, hcs⟩ := Bool.and_eq_true_iff.mp h
    refine Bool.and_eq_true_iff.mpr ⟨hc, List.all_eq_true.mpr fun d hd => ?_⟩
    exact List.all_eq_true.mp hcs d (List.mem_append_left v hd)

/-- No name ends where a text ends. -/
def NoneEnds (a : Alphabet) (front : Text) : Prop := ∀ v, v <:+ front → a.isName v = false

theorem Solid.noneEnds (ha : a.Solid) (h : ∀ c ∈ front.getLast?, a.later c = false) : a.NoneEnds front := by
  rintro v ⟨x, rfl⟩
  refine Bool.eq_false_iff.mpr fun hv => ?_
  rcases List.eq_nil_or_concat' v with rfl | ⟨init, c, rfl⟩
  · cases hv
  · have hlater := later_of_mem_name ha.later_of_first hv List.mem_concat_self
    rw [h c (by simp)] at hlater
    cases hlater

theorem noneEnds_nil (a : Alphabet) : a.NoneEnds [] := by
  intro v hv
  rw [List.suffix_nil.mp hv]
  rfl

theorem NoneEnds.of_suffix (h : a.NoneEnds front) (hu : u <:+ front) : a.NoneEnds u := fun v hv => h v (hv.trans hu)

/-- Where no name ends behind a text, none ends behind more text with a character in front of it that is of no name. -/
theorem Solid.noneEnds_append_cons (ha : a.Solid) {c : Char} (hc : a.later c = false) (h : a.NoneEnds u)
    (front : Text) : a.NoneEnds (front ++ c :: u) := by
  have hholds : ∀ v, c ∈ v → a.isName v = false := fun v hmem => Bool.eq_false_iff.mpr fun hv => by
    rw [later_of_mem_name ha.later_of_first hv hmem] at hc
    cases hc
  intro v hv
  rcases List.suffix_or_suffix_of_suffix hv (List.suffix_append front (c :: u)) with hv | hcu
  · rcases List.suffix_cons_iff.mp hv with rfl | hv
    · exact hholds _ List.mem_cons_self
    · exact h v hv
  · exact hholds v (hcu.subset List.mem_cons_self)

/-! ## Before a mark -/

/-- A mark that is neither white space nor a character of names. -/
structure Marks (a : Alphabet) (mark : Char) : Prop where
  not_later : a.later mark = false
  not_isBlank : isBlank mark = false

theorem Solid.not_later_of_mem (ha : a.Solid) (hmark : a.Marks mark) {gap : Text} (hgap : ∀ c ∈ gap, isBlank c = true) :
    ∀ c ∈ gap ++ [mark], a.later c = false := by
  intro c hc
  rcases List.mem_append.mp hc with hc | hc
  · refine Bool.eq_false_iff.mpr fun hlater => ?_
    have hblank := hgap c hc
    rw [ha.not_isBlank c hlater] at hblank
    cases hblank
  · rw [List.mem_singleton.mp hc]
    exact hmark.not_later

/-- Before a mark, a whole name is taken, with the white space behind it. -/
theorem Solid.beforeMark_eq_some_iff (ha : a.Solid) (hmark : a.Marks mark) :
    a.beforeMark mark before t = some hit ↔
      a.isName hit.piece = true ∧
        ∃ gap, (∀ c ∈ gap, isBlank c = true) ∧ t = hit.piece ++ (gap ++ [mark]) ++ hit.rest := by
  simp only [beforeMark, Option.bind_eq_bind, Option.bind_eq_some_iff, pure, Option.some.injEq,
    Text.dropBeginning?_eq_some_iff]
  constructor
  · rintro ⟨⟨name, behind⟩, htake, rest, hrest, rfl⟩
    obtain ⟨hname, rfl⟩ := takeName?_eq_some htake
    obtain ⟨gap, hgap, hbehind⟩ := exists_skipBlanks behind
    rw [hrest] at hbehind
    exact ⟨hname, gap, hgap, by rw [hbehind]; simp⟩
  · rintro ⟨hname, gap, hgap, rfl⟩
    have hfree := ha.not_later_of_mem hmark hgap
    have hstop : ∀ c ∈ (gap ++ mark :: hit.rest).head?, a.later c = false := by
      intro c hc
      refine hfree c ?_
      cases gap with
      | nil => exact List.mem_singleton.mpr (Option.some.inj hc).symm
      | cons b bs => exact Option.some.inj hc ▸ List.mem_cons_self
    refine ⟨(hit.piece, gap ++ mark :: hit.rest), ?_, hit.rest, ?_, rfl⟩
    · rw [← takeName?_append hname hstop]
      simp
    · exact skipBlanks_append hgap fun c hc => Option.some.inj hc ▸ hmark.not_isBlank

/-- Names before a mark are taken from left to right. -/
theorem Solid.beforeMark_steady (ha : a.Solid) (hmark : a.Marks mark) : (a.beforeMark mark).Steady where
  ignores _ _ := rfl
  takes := by
    intro t hit h
    obtain ⟨-, gap, -, ht⟩ := (ha.beforeMark_eq_some_iff hmark).mp h
    refine ⟨_, ?_, ht⟩
    simp

/-- What is taken in front of a name that no other name joins ends in front of it. -/
theorem Solid.clear_of_noneEnds (ha : a.Solid) (hmark : a.Marks mark) (hname : a.isName name = true)
    (hfront : a.NoneEnds front) (hne : front ≠ []) {w : Text}
    (h : a.beforeMark mark none (front ++ (name ++ w)) = some hit) :
    ∃ v, v <:+ front ∧ hit.rest = v ++ (name ++ w) := by
  obtain ⟨hpiece, gap, hgap, ht⟩ := (ha.beforeMark_eq_some_iff hmark).mp h
  rcases List.append_eq_append_iff.mp ht with ⟨y, htaken, hbehind⟩ | ⟨y, rfl, hrest⟩
  · cases y with
    | nil => exact ⟨[], List.nil_suffix, hbehind.symm⟩
    | cons d ds =>
      -- What is taken holds the first character of the name, so it lies in the piece, which begins with the text in
      -- front.
      obtain ⟨c, cs, rfl⟩ : ∃ c cs, name = c :: cs := List.exists_cons_of_ne_nil (by rintro rfl; cases hname)
      obtain rfl : c = d := (List.cons.inj hbehind).1
      have hlater : a.later c = true := later_of_mem_name ha.later_of_first hname List.mem_cons_self
      rcases List.append_eq_append_iff.mp htaken with ⟨z, -, hgapped⟩ | ⟨z, hjoined, -⟩
      · have hfree := ha.not_later_of_mem hmark hgap c (hgapped ▸ List.mem_append_right z List.mem_cons_self)
        rw [hfree] at hlater
        cases hlater
      · have hends := hfront front List.suffix_rfl
        rw [isName_of_append hne (hjoined ▸ hpiece)] at hends
        cases hends
  · exact ⟨y, List.suffix_append _ y, hrest⟩

/-- In front of a name that is taken, no name ends. -/
theorem Solid.exists_noneEnds_of_reaches (ha : a.Solid) (hmark : a.Marks mark) {place : Text}
    (hreach : (a.beforeMark mark).Reaches t place) (h : a.beforeMark mark none place = some hit) :
    ∃ front, t = front ++ place ∧ a.NoneEnds front := by
  obtain ⟨hname, gap, hgap, hplace⟩ := (ha.beforeMark_eq_some_iff hmark).mp h
  induction hreach with
  | here => exact ⟨[], rfl, noneEnds_nil a⟩
  | @miss c cs place hmiss _ ih =>
    obtain ⟨front, rfl, hfront⟩ := ih h hplace
    refine ⟨c :: front, rfl, fun v hv => ?_⟩
    rcases List.suffix_cons_iff.mp hv with rfl | hv
    · -- A name that ended here would be taken together with the name at the place.
      refine Bool.eq_false_iff.mpr fun hjoined => ?_
      have hwhole := isName_append hjoined fun d hd => later_of_mem_name ha.later_of_first hname hd
      have hfound : a.beforeMark mark none (c :: (front ++ place)) = some ⟨c :: front ++ hit.piece, hit.rest⟩ :=
        (ha.beforeMark_eq_some_iff hmark).mpr ⟨hwhole, gap, hgap, by rw [hplace]; simp⟩
      rw [hfound] at hmiss
      cases hmiss
    · exact hfront v hv
  | @hit t place found hfound _ ih =>
    obtain ⟨front, hrest, hfront⟩ := ih h hplace
    obtain ⟨-, gap', -, ht⟩ := (ha.beforeMark_eq_some_iff hmark).mp hfound
    refine ⟨found.piece ++ gap' ++ mark :: front, ?_, ha.noneEnds_append_cons hmark.not_later hfront _⟩
    rw [ht, hrest]
    simp

/-- Exactly those names are found before a mark that stand there, with or without white space between them, and that no
other name joins in front. -/
theorem Solid.mem_pieces_beforeMark_iff (ha : a.Solid) (hmark : a.Marks mark) :
    name ∈ (a.beforeMark mark).pieces t ↔
      a.isName name = true ∧ ∃ front gap rest, t = front ++ (name ++ (gap ++ [mark]) ++ rest) ∧ a.NoneEnds front ∧
        ∀ c ∈ gap, isBlank c = true := by
  rw [(ha.beforeMark_steady hmark).mem_pieces_iff]
  constructor
  · rintro ⟨place, hit, hreach, hhit, rfl⟩
    obtain ⟨front, rfl, hfront⟩ := ha.exists_noneEnds_of_reaches hmark hreach hhit
    obtain ⟨hname, gap, hgap, rfl⟩ := (ha.beforeMark_eq_some_iff hmark).mp hhit
    exact ⟨hname, front, gap, hit.rest, rfl, hfront, hgap⟩
  · rintro ⟨hname, front, gap, rest, rfl, hfront, hgap⟩
    refine ⟨_, ⟨name, rest⟩, (ha.beforeMark_steady hmark).reaches_append fun u hit hne hu hhit => ?_,
      (ha.beforeMark_eq_some_iff hmark).mpr ⟨hname, gap, hgap, rfl⟩, rfl⟩
    rw [List.append_assoc name] at hhit ⊢
    exact ha.clear_of_noneEnds hmark hname (hfront.of_suffix hu) hne hhit

/-! ## Behind a point -/

/-- Behind a point, a whole name is taken. -/
theorem afterPoint_eq_some_iff :
    a.afterPoint before t = some hit ↔
      a.isName hit.piece = true ∧ t = '.' :: (hit.piece ++ hit.rest) ∧ ∀ c ∈ hit.rest.head?, a.later c = false := by
  simp only [afterPoint, Option.bind_eq_bind, Option.bind_eq_some_iff, pure, Option.some.injEq,
    Text.dropBeginning?_eq_some_iff]
  constructor
  · rintro ⟨behind, rfl, ⟨name, rest⟩, htake, rfl⟩
    obtain ⟨hname, rfl, hstop⟩ := takeName?_eq_some_iff.mp htake
    exact ⟨hname, rfl, hstop⟩
  · rintro ⟨hname, rfl, hstop⟩
    exact ⟨_, rfl, _, takeName?_append hname hstop, rfl⟩

theorem afterPoint_steady (a : Alphabet) : a.afterPoint.Steady where
  ignores _ _ := rfl
  takes := by
    intro t hit h
    obtain ⟨-, ht, -⟩ := afterPoint_eq_some_iff.mp h
    exact ⟨'.' :: hit.piece, List.cons_ne_nil _ _, ht⟩

/-- Exactly those names are found behind a point that stand right behind one and that no character of names follows. -/
theorem Solid.mem_pieces_afterPoint_iff (ha : a.Solid) (hpoint : a.later '.' = false) :
    name ∈ a.afterPoint.pieces t ↔
      a.isName name = true ∧
        ∃ front rest, t = front ++ '.' :: (name ++ rest) ∧ ∀ c ∈ rest.head?, a.later c = false := by
  rw [(afterPoint_steady a).mem_pieces_iff]
  constructor
  · rintro ⟨place, hit, hreach, hhit, rfl⟩
    obtain ⟨front, rfl⟩ := (afterPoint_steady a).suffix_of_reaches hreach
    obtain ⟨hname, rfl, hstop⟩ := afterPoint_eq_some_iff.mp hhit
    exact ⟨hname, front, hit.rest, rfl, hstop⟩
  · rintro ⟨hname, front, rest, rfl, hstop⟩
    refine ⟨_, ⟨name, rest⟩, (afterPoint_steady a).reaches_append fun u hit hne _ hhit => ?_,
      afterPoint_eq_some_iff.mpr ⟨hname, rfl, hstop⟩, rfl⟩
    obtain ⟨hpiece, ht, -⟩ := afterPoint_eq_some_iff.mp hhit
    obtain ⟨c, cs, rfl⟩ := List.exists_cons_of_ne_nil hne
    -- What is taken holds one point, at its beginning, so it does not reach the point behind the text in front.
    rcases List.append_eq_append_iff.mp (List.cons.inj ht).2 with ⟨y, hpieceEq, hbehind⟩ | ⟨y, rfl, hrest⟩
    · cases y with
      | nil => exact ⟨[], List.nil_suffix, hbehind.symm⟩
      | cons d ds =>
        obtain rfl : '.' = d := (List.cons.inj hbehind).1
        have hmem := hpieceEq ▸ List.mem_append_right cs List.mem_cons_self
        have hlater := later_of_mem_name ha.later_of_first hpiece hmem
        rw [hpoint] at hlater
        cases hlater
    · exact ⟨y, (List.suffix_append _ y).trans (List.suffix_cons c _), hrest⟩

end Alphabet

/-! ## Occurrences -/

/-- A name stands before a mark as a whole: with or without white space between them, and behind no character of
names. -/
def StandsBefore (a : Alphabet) (mark : Char) (name t : Text) : Prop :=
  ∃ front gap rest, t = front ++ (name ++ (gap ++ [mark]) ++ rest) ∧ (∀ c ∈ front.getLast?, a.later c = false) ∧
    ∀ c ∈ gap, isBlank c = true

/-- A name stands right behind a point as a whole: no character of names follows it. -/
def StandsBehindPoint (a : Alphabet) (name t : Text) : Prop :=
  ∃ front rest, t = front ++ '.' :: (name ++ rest) ∧ ∀ c ∈ rest.head?, a.later c = false

/-- That a reading of identifiers finds all names, no keywords, that stand before one of some marks or behind a
point. -/
def FindsAll (a : Alphabet) (marks : List Char) (isKeyword : Text → Bool) (identifiers : Text → List Text) : Prop :=
  ∀ t name, a.isName name = true → isKeyword name = false →
    (∃ mark ∈ marks, StandsBefore a mark name t) ∨ StandsBehindPoint a name t → name ∈ identifiers t

variable {a : Alphabet} {patterns : List Pattern} {isKeyword : Text → Bool} {commasSeparate : Bool} {marks : List Char}

/-- Names are found where they stand by every collection that looks before these marks and behind points. -/
theorem Alphabet.Solid.findsAll_collectNames (ha : a.Solid) (hpoint : a.later '.' = false)
    (hcomma : commasSeparate = true → a.later ',' = false) (hmarks : ∀ mark ∈ marks, a.Marks mark)
    (hbefore : ∀ mark ∈ marks, a.beforeMark mark ∈ patterns) (hbehind : a.afterPoint ∈ patterns) :
    FindsAll a marks isKeyword (collectNames patterns isKeyword commasSeparate) := by
  intro t name hname hkeyword hstands
  have hself : name ∈ namesOf isKeyword commasSeparate name := by
    rw [ha.namesOf_name hcomma hname, hkeyword]
    exact List.mem_singleton_self name
  have hne : name ≠ [] := by
    rintro rfl
    cases hname
  rcases hstands with ⟨mark, hmark, front, gap, rest, ht, hfront, hgap⟩ | ⟨front, rest, ht, hstop⟩
  · have hpiece : name ∈ (a.beforeMark mark).pieces t :=
      (ha.mem_pieces_beforeMark_iff (hmarks mark hmark)).mpr ⟨hname, front, gap, rest, ht, ha.noneEnds hfront, hgap⟩
    exact mem_collectNames_iff.mpr ⟨hne, _, hbefore mark hmark, name, hpiece, hself⟩
  · have hpiece : name ∈ a.afterPoint.pieces t :=
      (ha.mem_pieces_afterPoint_iff hpoint).mpr ⟨hname, front, rest, ht, hstop⟩
    exact mem_collectNames_iff.mpr ⟨hne, _, hbehind, name, hpiece, hself⟩

/-- No name is missed that is no keyword and stands before an opening bracket or right behind a point, in any language;
before a colon, in JavaScript and TypeScript; or before an equals sign, in Python. -/
theorem occurrences_of_identifiers :
    FindsAll dollarAlphabet ['(', ':'] JavaScript.isKeyword JavaScript.identifiers ∧
      FindsAll dollarAlphabet ['(', ':'] TypeScript.isKeyword TypeScript.identifiers ∧
      FindsAll plainAlphabet ['(', '='] Python.isKeyword Python.identifiers := by
  have hdollar : ∀ mark ∈ ['(', ':'], dollarAlphabet.Marks mark :=
    List.forall_mem_cons.mpr ⟨⟨by decide, by decide⟩, List.forall_mem_singleton.mpr ⟨by decide, by decide⟩⟩
  have hplain : ∀ mark ∈ ['(', '='], plainAlphabet.Marks mark :=
    List.forall_mem_cons.mpr ⟨⟨by decide, by decide⟩, List.forall_mem_singleton.mpr ⟨by decide, by decide⟩⟩
  have hscript : ∀ isKeyword, FindsAll dollarAlphabet ['(', ':'] isKeyword
      (collectNames JavaScript.namePatterns isKeyword false) := fun isKeyword =>
    dollarAlphabet_solid.findsAll_collectNames (by decide) nofun hdollar (by simp [JavaScript.namePatterns])
      (by simp [JavaScript.namePatterns])
  refine ⟨hscript _, fun t name hname hkeyword hstands => ?_, ?_⟩
  · exact Text.mem_firstSeen_iff.mpr (List.mem_append_left _ (hscript _ t name hname hkeyword hstands))
  · exact plainAlphabet_solid.findsAll_collectNames (by decide) (fun _ => by decide) hplain
      (by simp [Python.namePatterns]) (by simp [Python.namePatterns])

/-- A name before a colon, with white space between them, a member, and an argument with a default are found. -/
theorem occurrences_of_identifiers_slave :
    (StandsBefore dollarAlphabet ':' "slave".toList "x ? slave : y".toList ∧
      "slave".toList ∈ JavaScript.identifiers "x ? slave : y".toList) ∧
    (StandsBehindPoint dollarAlphabet "slave_1".toList "a.b.slave_1;".toList ∧
      "slave_1".toList ∈ TypeScript.identifiers "a.b.slave_1;".toList) ∧
    (StandsBefore plainAlphabet '=' "slave".toList "def send(slave = 1)".toList ∧
      "slave".toList ∈ Python.identifiers "def send(slave = 1)".toList) := by
  obtain ⟨hjavaScript, htypeScript, hpython⟩ := occurrences_of_identifiers
  have hkey : StandsBefore dollarAlphabet ':' "slave".toList "x ? slave : y".toList := by
    refine ⟨"x ? ".toList, [' '], " y".toList, by decide, ?_, List.forall_mem_singleton.mpr rfl⟩
    rintro c ⟨⟩
    rfl
  have hmember : StandsBehindPoint dollarAlphabet "slave_1".toList "a.b.slave_1;".toList := by
    refine ⟨"a.b".toList, ";".toList, by decide, ?_⟩
    rintro c ⟨⟩
    rfl
  have hdefault : StandsBefore plainAlphabet '=' "slave".toList "def send(slave = 1)".toList := by
    refine ⟨"def send(".toList, [' '], " 1)".toList, by decide, ?_, List.forall_mem_singleton.mpr rfl⟩
    rintro c ⟨⟩
    rfl
  exact ⟨⟨hkey, hjavaScript _ _ (by decide) (by decide +kernel) (.inl ⟨':', by decide, hkey⟩)⟩,
    ⟨hmember, htypeScript _ _ (by decide) (by decide +kernel) (.inr hmember)⟩,
    ⟨hdefault, hpython _ _ (by decide) (by decide +kernel) (.inl ⟨'=', by decide, hdefault⟩)⟩⟩

end Wording.Tokens
