import Wording.Tokens.Pattern

/-! # Reading a text by a pattern

Whatever a pattern takes from a text is a piece of the text if each of its hits is one (`Yields.of_mem_pieces`).
Replacing goes along the text, at a miss by one character and at a hit by all that it takes, and the laws of replacing
follow by induction on that reading (`Steady.reading_induction`): a piece that a replacement cannot have touched is a
piece of the text before, and what erasing leaves of a text comes from one piece of that text.

A pattern is steady if it looks at nothing before its place and each hit takes something. Replacing counts the
characters of a hit that are still to be skipped; for a steady pattern it goes on behind them (`Steady.replaceFrom_eq`),
and nothing else is ever said of that count. An eraser leaves nothing for its hits, and they do not look at what stands
behind them. `Reaches` and `Leaves` follow the reading to a place of the text, the latter with what is left before that
place; they are used where it matters where something stands, not only whether it does.
-/

set_option autoImplicit false

namespace Wording.Tokens.Pattern

/-! ## Pieces -/

/-- A pattern only answers pieces of the text at its place, all of one shape. -/
def Yields (p : Pattern) (shape : Text → Prop) : Prop :=
  ∀ before t hit, p before t = some hit → shape hit.piece ∧ hit.piece <:+: t

variable {p : Pattern}

/-- Every piece that is taken from a text was answered at some place of it. -/
theorem exists_hit_of_mem_piecesFrom {before : Option Char} {skip : Nat} {t piece : Text}
    (h : piece ∈ p.piecesFrom before skip t) :
    ∃ before' place hit, place <:+ t ∧ p before' place = some hit ∧ hit.piece = piece := by
  induction t generalizing before skip with
  | nil => cases h
  | cons c cs ih =>
    have later : ∀ {b k}, piece ∈ p.piecesFrom b k cs →
        ∃ before' place hit, place <:+ c :: cs ∧ p before' place = some hit ∧ hit.piece = piece := by
      intro b k hmem
      obtain ⟨before', place, hit, hplace, hhit⟩ := ih hmem
      exact ⟨before', place, hit, hplace.trans (List.suffix_cons c cs), hhit⟩
    cases skip with
    | succ k => exact later h
    | zero =>
      rw [piecesFrom] at h
      cases hhit : p before (c :: cs) with
      | none =>
        rw [hhit] at h
        exact later h
      | some hit =>
        rw [hhit] at h
        rcases List.mem_cons.mp h with rfl | h
        · exact ⟨before, c :: cs, hit, List.suffix_refl _, hhit, rfl⟩
        · exact later h

/-- What a pattern takes from a text has the shape of its answers and is a piece of the text. -/
theorem Yields.of_mem_pieces {shape : Text → Prop} (hp : p.Yields shape) {t piece : Text}
    (h : piece ∈ p.pieces t) : shape piece ∧ piece <:+: t := by
  obtain ⟨before, place, hit, hplace, hhit, rfl⟩ := exists_hit_of_mem_piecesFrom h
  obtain ⟨hshape, hinfix⟩ := hp before place hit hhit
  exact ⟨hshape, hinfix.trans hplace.isInfix⟩

/-- A pattern that answers one shape answers every wider one. -/
theorem Yields.mono {shape wider : Text → Prop} (hp : p.Yields shape)
    (h : ∀ piece, shape piece → wider piece) : p.Yields wider := fun before t hit hhit =>
  ⟨h _ (hp before t hit hhit).1, (hp before t hit hhit).2⟩

/-- A pattern hits somewhere in a text. -/
def FoundIn (p : Pattern) (t : Text) : Prop := ∃ place, place <:+ t ∧ p none place ≠ none

theorem foundIn_cons_iff {c : Char} {cs : Text} :
    p.FoundIn (c :: cs) ↔ p none (c :: cs) ≠ none ∨ p.FoundIn cs := by
  simp only [FoundIn, List.suffix_cons_iff, or_and_right, exists_or, exists_eq_left]

/-- A pattern that hits where texts of some shape begin is found in the texts that hold one of them. -/
theorem foundIn_iff {shape : Text → Prop} (h : ∀ place, p none place ≠ none ↔ ∃ u, shape u ∧ u <+: place) {t : Text} :
    p.FoundIn t ↔ ∃ u, shape u ∧ u <:+: t := by
  simp only [FoundIn, h, List.infix_iff_prefix_suffix]
  constructor
  · rintro ⟨place, hsuffix, u, hu, hprefix⟩
    exact ⟨u, hu, place, hprefix, hsuffix⟩
  · rintro ⟨u, hu, place, hprefix, hsuffix⟩
    exact ⟨place, hsuffix, u, hu, hprefix⟩

/-! ## Replacing -/

/-- A pattern that looks at nothing before its place and takes at least one character. -/
structure Steady (p : Pattern) : Prop where
  ignores : ∀ before t, p before t = p none t
  takes : ∀ t hit, p none t = some hit → ∃ taken, taken ≠ [] ∧ t = taken ++ hit.rest

/-- What is behind all that a hit takes is behind as many characters as the hit has taken. -/
theorem drop_length_sub (taken rest : Text) : (taken ++ rest).drop ((taken ++ rest).length - rest.length) = rest := by
  rw [List.length_append, Nat.add_sub_cancel, List.drop_left]

/-- Replacing goes on behind the characters that are still to be skipped. -/
theorem Steady.replaceFrom_eq (hp : p.Steady) (before : Option Char) (skip : Nat) (t : Text) :
    p.replaceFrom before skip t = p.replace (t.drop skip) := by
  induction t generalizing before skip with
  | nil => rw [List.drop_nil, replace, replaceFrom, replaceFrom]
  | cons c cs ih =>
    cases skip with
    | succ k => rw [replaceFrom, ih, List.drop_succ_cons]
    | zero => rw [List.drop_zero, replace, replaceFrom, replaceFrom, hp.ignores before]

theorem Steady.replace_of_miss (hp : p.Steady) {c : Char} {cs : Text} (h : p none (c :: cs) = none) :
    p.replace (c :: cs) = c :: p.replace cs := by
  rw [replace, replaceFrom, h, hp.replaceFrom_eq, List.drop_zero]

/-- Where the pattern hits, its piece stands in the place of all that it takes. -/
theorem Steady.replace_of_hit (hp : p.Steady) {t : Text} {hit : Hit} (h : p none t = some hit) :
    p.replace t = hit.piece ++ p.replace hit.rest := by
  obtain ⟨taken, htaken, rfl⟩ := hp.takes t hit h
  obtain ⟨c, cs, rfl⟩ := List.exists_cons_of_ne_nil htaken
  rw [List.cons_append] at h ⊢
  rw [replace, replaceFrom, h]
  change hit.piece ++ p.replaceFrom (some c) ((cs ++ hit.rest).length - hit.rest.length) _ = _
  rw [hp.replaceFrom_eq, drop_length_sub]

/-- Taking pieces goes on behind the characters that are still to be skipped. -/
theorem Steady.piecesFrom_eq (hp : p.Steady) (before : Option Char) (skip : Nat) (t : Text) :
    p.piecesFrom before skip t = p.pieces (t.drop skip) := by
  induction t generalizing before skip with
  | nil => rw [List.drop_nil, pieces, piecesFrom, piecesFrom]
  | cons c cs ih =>
    cases skip with
    | succ k => rw [piecesFrom, ih, List.drop_succ_cons]
    | zero => rw [List.drop_zero, pieces, piecesFrom, piecesFrom, hp.ignores before]

theorem Steady.pieces_of_miss (hp : p.Steady) {c : Char} {cs : Text} (h : p none (c :: cs) = none) :
    p.pieces (c :: cs) = p.pieces cs := by
  rw [pieces, piecesFrom, h, hp.piecesFrom_eq, List.drop_zero]

theorem Steady.pieces_of_hit (hp : p.Steady) {t : Text} {hit : Hit} (h : p none t = some hit) :
    p.pieces t = hit.piece :: p.pieces hit.rest := by
  obtain ⟨taken, htaken, rfl⟩ := hp.takes t hit h
  obtain ⟨c, cs, rfl⟩ := List.exists_cons_of_ne_nil htaken
  rw [List.cons_append] at h ⊢
  rw [pieces, piecesFrom, h]
  change hit.piece :: p.piecesFrom (some c) ((cs ++ hit.rest).length - hit.rest.length) _ = _
  rw [hp.piecesFrom_eq, drop_length_sub]

/-- Induction along the reading of a text: at a miss the text behind one character is read on, at a hit
the text behind all that it takes. -/
theorem Steady.reading_induction (hp : p.Steady) {motive : Text → Prop} (nil : motive [])
    (miss : ∀ c cs, p none (c :: cs) = none → motive cs → motive (c :: cs))
    (hit : ∀ t hit, p none t = some hit → motive hit.rest → motive t) (t : Text) : motive t := by
  obtain ⟨n, hn⟩ : ∃ n, t.length = n := ⟨_, rfl⟩
  induction n using Nat.strongRecOn generalizing t with
  | ind n ih =>
    cases h : p none t with
    | some answer =>
      obtain ⟨taken, htaken, ht⟩ := hp.takes t answer h
      have hpos := List.length_pos_iff.mpr htaken
      have hlen := congrArg List.length ht
      rw [List.length_append] at hlen
      exact hit t answer h (ih answer.rest.length (by omega) answer.rest rfl)
    | none =>
      cases t with
      | nil => exact nil
      | cons c cs => exact miss c cs h (ih cs.length (by simp [← hn]) cs rfl)

/-- Reading a text comes to a place in it, at a miss over one character and at a hit over all that it takes. -/
inductive Reaches (p : Pattern) : Text → Text → Prop
  | here (t : Text) : Reaches p t t
  | miss {c : Char} {cs place : Text} : p none (c :: cs) = none → Reaches p cs place → Reaches p (c :: cs) place
  | hit {t place : Text} {hit : Hit} : p none t = some hit → Reaches p hit.rest place → Reaches p t place

/-- From a place that reading comes to, it goes on as from the beginning of a text. -/
theorem Reaches.trans {t place later : Text} (h : p.Reaches t place) (hlater : p.Reaches place later) :
    p.Reaches t later := by
  induction h with
  | here => exact hlater
  | miss hmiss _ ih => exact .miss hmiss (ih hlater)
  | hit hhit _ ih => exact .hit hhit (ih hlater)

/-- Where reading comes to is an end of the text. -/
theorem Steady.suffix_of_reaches (hp : p.Steady) {t place : Text} (h : p.Reaches t place) : place <:+ t := by
  induction h with
  | here => exact List.suffix_rfl
  | miss _ _ ih => exact ih.trans (List.suffix_cons _ _)
  | hit hhit _ ih =>
    obtain ⟨taken, -, ht⟩ := hp.takes _ _ hhit
    exact ih.trans (ht ▸ List.suffix_append taken _)

/-- Reading a text comes to a place in it and leaves a text in the stead of what stands before the place. -/
inductive Leaves (p : Pattern) : Text → Text → Text → Prop
  | here (t : Text) : Leaves p t [] t
  | miss {c : Char} {cs left place : Text} :
    p none (c :: cs) = none → Leaves p cs left place → Leaves p (c :: cs) (c :: left) place
  | hit {t left place : Text} {hit : Hit} :
    p none t = some hit → Leaves p hit.rest left place → Leaves p t (hit.piece ++ left) place

theorem Leaves.reaches {t left place : Text} (h : p.Leaves t left place) : p.Reaches t place := by
  induction h with
  | here t => exact .here t
  | miss hmiss _ ih => exact .miss hmiss ih
  | hit hhit _ ih => exact .hit hhit ih

theorem Leaves.trans {t left place more later : Text} (h : p.Leaves t left place) (hlater : p.Leaves place more later) :
    p.Leaves t (left ++ more) later := by
  induction h with
  | here => exact hlater
  | miss hmiss _ ih => exact .miss hmiss (ih hlater)
  | hit hhit _ ih =>
    rw [List.append_assoc]
    exact .hit hhit (ih hlater)

/-- What is taken from a text is what the pattern answers at the places that reading comes to. -/
theorem Steady.mem_pieces_iff (hp : p.Steady) {t piece : Text} :
    piece ∈ p.pieces t ↔ ∃ place hit, p.Reaches t place ∧ p none place = some hit ∧ hit.piece = piece := by
  constructor
  · intro h
    induction t using hp.reading_induction with
    | nil => cases h
    | miss c cs hmiss ih =>
      rw [hp.pieces_of_miss hmiss] at h
      obtain ⟨place, hit, hreach, hfound⟩ := ih h
      exact ⟨place, hit, .miss hmiss hreach, hfound⟩
    | hit t hit hhit ih =>
      rw [hp.pieces_of_hit hhit] at h
      rcases List.mem_cons.mp h with rfl | h
      · exact ⟨t, hit, .here t, hhit, rfl⟩
      · obtain ⟨place, hit', hreach, hfound⟩ := ih h
        exact ⟨place, hit', .hit hhit hreach, hfound⟩
  · rintro ⟨place, hit, hreach, hhit, rfl⟩
    induction hreach with
    | here t =>
      rw [hp.pieces_of_hit hhit]
      exact List.mem_cons_self
    | miss hmiss _ ih =>
      rw [hp.pieces_of_miss hmiss]
      exact ih hhit
    | hit hhit' _ ih =>
      rw [hp.pieces_of_hit hhit']
      exact List.mem_cons_of_mem _ (ih hhit)

/-- Reading comes to a place if all that is taken in front of it ends in front of it. -/
theorem Steady.reaches_append (hp : p.Steady) {front place : Text}
    (hclear : ∀ u hit, u ≠ [] → u <:+ front → p none (u ++ place) = some hit → ∃ v, v <:+ u ∧ hit.rest = v ++ place) :
    p.Reaches (front ++ place) place := by
  obtain ⟨t, ht⟩ : ∃ t, t = front ++ place := ⟨_, rfl⟩
  rw [← ht]
  induction t using hp.reading_induction generalizing front with
  | nil =>
    rw [(List.append_eq_nil_iff.mp ht.symm).2]
    exact .here []
  | miss c cs hmiss ih =>
    cases front with
    | nil => exact ht ▸ .here _
    | cons x xs =>
      obtain ⟨rfl, hcs⟩ := List.cons.inj ht
      exact .miss hmiss (ih (fun u hit hne hu => hclear u hit hne (hu.trans (List.suffix_cons _ _))) hcs)
  | hit t hit hhit ih =>
    cases front with
    | nil => exact ht ▸ .here _
    | cons x xs =>
      obtain ⟨v, hv, hrest⟩ := hclear (x :: xs) hit (List.cons_ne_nil _ _) List.suffix_rfl (ht ▸ hhit)
      exact .hit hhit (ih (fun u hit' hne hu => hclear u hit' hne (hu.trans hv)) hrest)

/-- A class of characters that replacing leaves alone: no character of the class stands in a new piece, and
where the new piece is empty, none follows it. -/
def Bars (p : Pattern) (member : Char → Prop) : Prop :=
  ∀ t hit, p none t = some hit →
    (∀ c ∈ hit.piece, ¬ member c) ∧
      (hit.piece = [] → hit.rest = [] ∨ ∃ c more, hit.rest = c :: more ∧ ¬ member c)

theorem Bars.mono {member narrower : Char → Prop} (hbars : p.Bars member) (h : ∀ c, narrower c → member c) :
    p.Bars narrower := by
  intro t hit hhit
  obtain ⟨hpiece, hrest⟩ := hbars t hit hhit
  refine ⟨fun c hc hnarrow => hpiece c hc (h c hnarrow), fun hnil => (hrest hnil).imp id ?_⟩
  rintro ⟨c, more, hmore, hc⟩
  exact ⟨c, more, hmore, fun hnarrow => hc (h c hnarrow)⟩

/-- A beginning of the replaced text in such a class is a beginning of the text before, which reading leaves as it is,
and what follows it comes from what followed there. -/
theorem Steady.exists_behind_of_replace_eq (hp : p.Steady) {member : Char → Prop} (hbars : p.Bars member)
    {t u w : Text} (hu : ∀ c ∈ u, member c) (h : p.replace t = u ++ w) :
    ∃ w', t = u ++ w' ∧ p.Leaves t u w' ∧ p.replace w' = w := by
  induction t using hp.reading_induction generalizing u with
  | nil =>
    obtain ⟨rfl, rfl⟩ := List.append_eq_nil_iff.mp h.symm
    exact ⟨[], rfl, .here [], rfl⟩
  | miss c cs hmiss ih =>
    cases u with
    | nil => exact ⟨c :: cs, rfl, .here _, h⟩
    | cons x xs =>
      rw [hp.replace_of_miss hmiss, List.cons_append] at h
      obtain ⟨rfl, htail⟩ := List.cons.inj h
      obtain ⟨w', rfl, hleaves, hw⟩ := ih (fun d hd => hu d (List.mem_cons_of_mem _ hd)) htail
      exact ⟨w', rfl, .miss hmiss hleaves, hw⟩
  | hit t hit hhit ih =>
    cases u with
    | nil => exact ⟨t, rfl, .here t, h⟩
    | cons x xs =>
      obtain ⟨hpiece, hrest⟩ := hbars t hit hhit
      have hx := hu x List.mem_cons_self
      rw [hp.replace_of_hit hhit] at h
      -- The first character comes from the new piece or, where that is empty, from behind the hit.
      cases hnew : hit.piece with
      | cons y ys =>
        rw [hnew] at h
        obtain ⟨rfl, -⟩ := List.cons.inj h
        exact absurd hx (hpiece y (hnew ▸ List.mem_cons_self))
      | nil =>
        rw [hnew, List.nil_append] at h
        obtain ⟨w', hbehind, -⟩ := ih hu h
        rcases hrest hnew with hend | ⟨c, more, hmore, hc⟩
        · rw [hend] at hbehind
          cases hbehind
        · rw [hmore] at hbehind
          obtain ⟨rfl, -⟩ := List.cons.inj hbehind
          exact absurd hx hc

/-- A part of the replaced text in such a class is a part of the text before. Reading comes to it, misses there and
leaves it as it is; what stands before it is what is left before it, and what follows it comes from what followed
there. -/
theorem Steady.exists_of_replace_eq (hp : p.Steady) {member : Char → Prop} (hbars : p.Bars member)
    {t x u w : Text} (hne : u ≠ []) (hu : ∀ c ∈ u, member c) (h : p.replace t = x ++ u ++ w) :
    ∃ w', p.Leaves t x (u ++ w') ∧ p none (u ++ w') = none ∧ p.Leaves (u ++ w') u w' ∧ p.replace w' = w := by
  induction t using hp.reading_induction generalizing x with
  | nil => exact absurd (List.append_eq_nil_iff.mp (List.append_eq_nil_iff.mp h.symm).1).2 hne
  | miss c cs hmiss ih =>
    cases x with
    | nil =>
      obtain ⟨w', hsame, hleaves, hw⟩ := hp.exists_behind_of_replace_eq hbars hu h
      exact ⟨w', hsame ▸ .here _, hsame ▸ hmiss, hsame ▸ hleaves, hw⟩
    | cons y ys =>
      rw [hp.replace_of_miss hmiss] at h
      obtain ⟨rfl, htail⟩ := List.cons.inj h
      obtain ⟨w', hleaves, hfound⟩ := ih htail
      exact ⟨w', .miss hmiss hleaves, hfound⟩
  | hit t hit hhit ih =>
    have behind : ∀ {y : Text}, p.replace hit.rest = y ++ u ++ w →
        ∃ w', p.Leaves t (hit.piece ++ y) (u ++ w') ∧ p none (u ++ w') = none ∧ p.Leaves (u ++ w') u w' ∧
          p.replace w' = w := by
      intro y hy
      obtain ⟨w', hleaves, hfound⟩ := ih hy
      exact ⟨w', .hit hhit hleaves, hfound⟩
    rw [hp.replace_of_hit hhit, List.append_assoc] at h
    rcases List.append_eq_append_iff.mp h with ⟨y, rfl, hy⟩ | ⟨new, hnew, hy⟩
    · exact behind (hy.trans (List.append_assoc _ _ _).symm)
    · -- A new piece that reached into the part would begin it with a character that is not of the class.
      cases new with
      | nil =>
        rw [List.append_nil] at hnew
        have hbehind := behind (y := []) hy.symm
        rwa [List.append_nil, hnew] at hbehind
      | cons y ys =>
        obtain ⟨d, ds, rfl⟩ := List.exists_cons_of_ne_nil hne
        obtain ⟨rfl, -⟩ := List.cons.inj hy
        have hmem : d ∈ hit.piece := hnew ▸ List.mem_append_right _ List.mem_cons_self
        exact absurd (hu d List.mem_cons_self) ((hbars t hit hhit).1 d hmem)

/-- A piece of the replaced text in such a class is a piece of the text before. -/
theorem Steady.infix_of_infix_replace (hp : p.Steady) {member : Char → Prop}
    (hbars : p.Bars member) {t u : Text} (hu : ∀ c ∈ u, member c) (h : u <:+: p.replace t) :
    u <:+: t := by
  by_cases hne : u = []
  · rw [hne]
    exact List.nil_infix
  · obtain ⟨x, w, hwhole⟩ := h
    obtain ⟨w', hleaves, -⟩ := hp.exists_of_replace_eq hbars hne hu hwhole.symm
    exact (List.prefix_append u w').isInfix.trans (hp.suffix_of_reaches hleaves.reaches).isInfix

/-! ## Erasing -/

/-- A pattern that leaves nothing of what it takes, whose hits look at no text behind what they take and
whose misses stay misses when the text ends earlier. -/
structure Erases (p : Pattern) : Prop extends Steady p where
  leaves : ∀ t hit, p none t = some hit → hit.piece = []
  hit_append : ∀ taken hit, p none (taken ++ hit.rest) = some hit →
    ∀ other, p none (taken ++ other) = some ⟨[], other⟩
  miss_of_isPrefix : ∀ t u, p none t = none → u <+: t → p none u = none

/-- A beginning of what erasing leaves is what it leaves of a beginning with the same last character. -/
theorem Erases.exists_of_isPrefix (hp : p.Erases) {t u : Text} (h : u <+: p.replace t) :
    ∃ v, v <+: t ∧ p.replace v = u ∧ v.getLast? = u.getLast? := by
  induction t using hp.reading_induction generalizing u with
  | nil =>
    rw [List.prefix_nil.mp h]
    exact ⟨[], List.nil_prefix, rfl, rfl⟩
  | miss c cs hmiss ih =>
    rw [hp.replace_of_miss hmiss] at h
    cases u with
    | nil => exact ⟨[], List.nil_prefix, rfl, rfl⟩
    | cons x xs =>
      obtain ⟨rfl, hxs⟩ := List.cons_prefix_cons.mp h
      obtain ⟨v, hv, hleft, hlast⟩ := ih hxs
      have hcv : x :: v <+: x :: cs := List.cons_prefix_cons.mpr ⟨rfl, hv⟩
      refine ⟨x :: v, hcv, ?_, ?_⟩
      · rw [hp.replace_of_miss (hp.miss_of_isPrefix _ _ hmiss hcv), hleft]
      · rw [List.getLast?_cons, List.getLast?_cons, hlast]
  | hit t hit hhit ih =>
    rw [hp.replace_of_hit hhit, hp.leaves t hit hhit, List.nil_append] at h
    cases u with
    | nil => exact ⟨[], List.nil_prefix, rfl, rfl⟩
    | cons x xs =>
      obtain ⟨v, hv, hleft, hlast⟩ := ih h
      obtain ⟨taken, -, rfl⟩ := hp.takes t hit hhit
      refine ⟨taken ++ v, (List.prefix_append_right_inj taken).mpr hv, ?_, ?_⟩
      · rw [hp.replace_of_hit (hp.hit_append taken hit hhit v), List.nil_append, hleft]
      · rw [List.getLast?_append, hlast, List.getLast?_cons, Option.some_or]

/-- A piece of what erasing leaves is what it leaves of a piece of the text with the same first and last
characters, so that all that was erased stands inside that piece. -/
theorem Erases.exists_of_isInfix (hp : p.Erases) {t u : Text} (hu : u ≠ []) (h : u <:+: p.replace t) :
    ∃ v, v <:+: t ∧ p.replace v = u ∧ v.head? = u.head? ∧ v.getLast? = u.getLast? := by
  induction t using hp.reading_induction with
  | nil => exact absurd (List.infix_nil.mp h) hu
  | miss c cs hmiss ih =>
    rw [hp.replace_of_miss hmiss] at h
    rcases List.infix_cons_iff.mp h with h | h
    · obtain ⟨x, xs, rfl⟩ := List.exists_cons_of_ne_nil hu
      obtain ⟨rfl, hxs⟩ := List.cons_prefix_cons.mp h
      obtain ⟨v, hv, hleft, hlast⟩ := hp.exists_of_isPrefix hxs
      have hcv : x :: v <+: x :: cs := List.cons_prefix_cons.mpr ⟨rfl, hv⟩
      refine ⟨x :: v, hcv.isInfix, ?_, rfl, ?_⟩
      · rw [hp.replace_of_miss (hp.miss_of_isPrefix _ _ hmiss hcv), hleft]
      · rw [List.getLast?_cons, List.getLast?_cons, hlast]
    · obtain ⟨v, hv, hleft⟩ := ih h
      exact ⟨v, List.infix_cons hv, hleft⟩
  | hit t hit hhit ih =>
    rw [hp.replace_of_hit hhit, hp.leaves t hit hhit, List.nil_append] at h
    obtain ⟨v, hv, hleft⟩ := ih h
    obtain ⟨taken, -, rfl⟩ := hp.takes t hit hhit
    exact ⟨v, hv.trans (List.suffix_append taken hit.rest).isInfix, hleft⟩

end Wording.Tokens.Pattern
