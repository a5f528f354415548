import Wording.Catalog
import Wording.Proofs.Text.FirstSeen

/-! # Catalogs over whole histories of registrations

Each registration keeps the languages in the order in which they came first, and makes its parser the one of its
language. So a catalog holds of each language the parser that was registered last, and everything that it answers is
told by the history.

`Records` is the invariant: the languages of the catalog are those of the history, each once and in the order of their
first registrations, and its parsers are the current ones. One registration keeps it (`Records.register`), so all of a
run do (`Records.foldl_register`), on top of any catalog that already records an earlier history. What a catalog answers
to a language, to an extension or to the name of a file is then derived from the invariant, without another look at how
a registration works.

Where two current parsers list one extension, the language that came first wins: `IsForExtension` says which parser that
is, and there is one at most (`Records.eq_of_isForExtension`).
-/

set_option autoImplicit false

namespace Wording.Catalog

variable {history : List Parser} {c : Catalog}

/-! ## One registration -/

theorem map_language_place (p : Parser) (parsers : List Parser) :
    (place p parsers).map (·.language) =
      if p.language ∈ parsers.map (·.language) then parsers.map (·.language)
      else parsers.map (·.language) ++ [p.language] := by
  induction parsers with
  | nil => rfl
  | cons q rest ih =>
    rw [place]
    by_cases hq : q.language = p.language
    · rw [if_pos hq, List.map_cons, List.map_cons, if_pos (List.mem_cons.mpr (.inl hq.symm)), hq]
    · rw [if_neg hq, List.map_cons, List.map_cons, ih]
      by_cases hrest : p.language ∈ rest.map (·.language)
      · rw [if_pos hrest, if_pos (List.mem_cons_of_mem _ hrest)]
      · rw [if_neg hrest, if_neg (List.not_mem_cons_of_ne_of_not_mem (Ne.symm hq) hrest), List.cons_append]

/-- Where no language stands twice, a registration puts its parser in the place of the one of its language. -/
theorem mem_place_iff {p q : Parser} {parsers : List Parser} (h : (parsers.map (·.language)).Nodup) :
    q ∈ place p parsers ↔ q = p ∨ (q ∈ parsers ∧ q.language ≠ p.language) := by
  induction parsers with
  | nil => simp only [place, List.mem_singleton, List.not_mem_nil, false_and, or_false]
  | cons r rest ih =>
    obtain ⟨hr, hrest⟩ := List.nodup_cons.mp h
    rw [place]
    by_cases hsame : r.language = p.language
    · -- The other parsers are of other languages, so that they all stay.
      have hother : ∀ q ∈ rest, q.language ≠ p.language := fun q hq heq =>
        hr (List.mem_map.mpr ⟨q, hq, heq.trans hsame.symm⟩)
      rw [if_pos hsame, List.mem_cons]
      refine or_congr_right ⟨fun hq => ⟨List.mem_cons_of_mem _ hq, hother q hq⟩, ?_⟩
      rintro ⟨hq, hne⟩
      obtain rfl | hq := List.mem_cons.mp hq
      · exact absurd hsame hne
      · exact hq
    · rw [if_neg hsame, List.mem_cons, ih hrest, List.mem_cons]
      constructor
      · rintro (rfl | rfl | ⟨hq, hne⟩)
        · exact .inr ⟨.inl rfl, hsame⟩
        · exact .inl rfl
        · exact .inr ⟨.inr hq, hne⟩
      · rintro (rfl | ⟨rfl | hq, hne⟩)
        · exact .inr (.inl rfl)
        · exact .inl rfl
        · exact .inr (.inr ⟨hq, hne⟩)

/-! ## Histories -/

/-- That a parser is the current one of its language: no parser of the language was registered after it. -/
def IsCurrent (history : List Parser) (p : Parser) : Prop :=
  ∃ before after, history = before ++ p :: after ∧ ∀ q ∈ after, q.language ≠ p.language

/-- That a catalog is what a history of registrations leaves: its languages are those of the history, each once and in
the order of their first registrations, and its parsers are the current ones. -/
structure Records (c : Catalog) (history : List Parser) : Prop where
  inOrder : Text.IsFirstSeen (history.map (·.language)) c.languages
  mem_iff : ∀ p, p ∈ c.parsers ↔ IsCurrent history p

/-- After one more registration its parser is current, and so are the current ones of the other languages. -/
theorem isCurrent_append_iff {p q : Parser} :
    IsCurrent (history ++ [p]) q ↔ q = p ∨ (IsCurrent history q ∧ q.language ≠ p.language) := by
  constructor
  · rintro ⟨before, after, heq, hlast⟩
    obtain rfl | ⟨more, last, rfl⟩ := List.eq_nil_or_concat after
    · obtain ⟨-, hp⟩ := List.append_inj' heq rfl
      exact .inl (List.singleton_inj.mp hp).symm
    · rw [List.concat_eq_append, ← List.cons_append, ← List.append_assoc] at heq
      obtain ⟨rfl, hp⟩ := List.append_inj' heq rfl
      obtain rfl := List.singleton_inj.mp hp
      rw [List.concat_eq_append] at hlast
      obtain ⟨hmore, hone⟩ := List.forall_mem_append.mp hlast
      exact .inr ⟨⟨before, more, rfl, hmore⟩, (hone p (List.mem_singleton_self p)).symm⟩
  · rintro (rfl | ⟨⟨before, after, rfl, hlast⟩, hne⟩)
    · exact ⟨history, [], rfl, nofun⟩
    · refine ⟨before, after ++ [p], by rw [List.append_assoc, List.cons_append], ?_⟩
      exact List.forall_mem_append.mpr ⟨hlast, List.forall_mem_singleton.mpr hne.symm⟩

theorem records_empty : Records empty [] :=
  ⟨⟨fun _ => Iff.rfl, .nil, .nil⟩, fun _ => iff_of_false nofun fun ⟨_, _, h, _⟩ =>
    List.append_ne_nil_of_right_ne_nil _ (List.cons_ne_nil _ _) h.symm⟩

/-- A registration goes into the record. -/
theorem Records.register (h : Records c history) (p : Parser) : Records (c.register p) (history ++ [p]) := by
  refine ⟨?_, fun q => ?_⟩
  · have hmem : p.language ∈ c.parsers.map (·.language) ↔ p.language ∈ history.map (·.language) :=
      h.inOrder.mem_iff p.language
    rw [List.map_append, List.map_singleton, languages, Catalog.register, map_language_place]
    split
    next hp => exact h.inOrder.append_of_mem (hmem.mp hp)
    next hp => exact h.inOrder.append_of_notMem fun hold => hp (hmem.mpr hold)
  · rw [Catalog.register, mem_place_iff h.inOrder.nodup, h.mem_iff, isCurrent_append_iff]

/-- All registrations of a run go into the record. -/
theorem Records.foldl_register (h : Records c history) (later : List Parser) :
    Records (later.foldl Catalog.register c) (history ++ later) := by
  induction later generalizing c history with
  | nil => rwa [List.append_nil]
  | cons p rest ih =>
    have hrest := ih (h.register p)
    rwa [List.append_assoc, List.singleton_append] at hrest

theorem records_ofParsers (history : List Parser) : Records (ofParsers history) history :=
  records_empty.foldl_register history

/-! ## What a catalog answers -/

/-- The extensions of the current parser of a language. -/
def extensionsOf (c : Catalog) (language : Text) : List Text :=
  ((c.parser? language).map (·.extensions)).getD []

/-- The place of a language in the order of first registrations. -/
def placeOf (history : List Parser) (language : Text) : Nat := (history.map (·.language)).idxOf language

/-- That a parser is the one for an extension: of the current parsers that list it in small letters, the one whose
language came first. -/
structure IsForExtension (history : List Parser) (extension : Text) (p : Parser) : Prop where
  current : IsCurrent history p
  lists : Text.lower extension ∈ p.extensions
  first : ∀ q, IsCurrent history q → Text.lower extension ∈ q.extensions →
    placeOf history p.language ≤ placeOf history q.language

theorem Records.eq_of_language (h : Records c history) {p q : Parser} (hp : p ∈ c.parsers) (hq : q ∈ c.parsers)
    (heq : p.language = q.language) : p = q :=
  List.inj_on_of_nodup_map h.inOrder.nodup hp hq heq

/-- The parser of a language is its current one. -/
theorem Records.parser?_eq_some_iff (h : Records c history) {language : Text} {p : Parser} :
    c.parser? language = some p ↔ p.language = language ∧ IsCurrent history p := by
  have hfound : ∀ q, c.parser? language = some q → q ∈ c.parsers ∧ q.language = language := fun q hq => by
    have hlanguage := List.find?_some hq
    exact ⟨List.mem_of_find?_eq_some hq, of_decide_eq_true hlanguage⟩
  constructor
  · intro hp
    obtain ⟨hmem, hlanguage⟩ := hfound p hp
    exact ⟨hlanguage, (h.mem_iff p).mp hmem⟩
  · rintro ⟨hlanguage, hp⟩
    have hmem := (h.mem_iff p).mpr hp
    have hsome : (c.parser? language).isSome := List.find?_isSome.mpr ⟨p, hmem, decide_eq_true hlanguage⟩
    obtain ⟨q, hq⟩ := Option.isSome_iff_exists.mp hsome
    obtain ⟨hmemq, hlanguageq⟩ := hfound q hq
    rw [hq, h.eq_of_language hmemq hmem (hlanguageq.trans hlanguage.symm)]

theorem Records.isSome_parser?_iff (h : Records c history) {language : Text} :
    (c.parser? language).isSome ↔ language ∈ history.map (·.language) := by
  rw [← h.inOrder.mem_iff, languages, parser?, List.find?_isSome, List.mem_map]
  simp only [decide_eq_true_eq]

/-- An extension has a parser if a current parser lists it in small letters. -/
theorem Records.isSome_parserOfExtension?_iff (h : Records c history) {extension : Text} :
    (c.parserOfExtension? extension).isSome ↔ ∃ p, IsCurrent history p ∧ Text.lower extension ∈ p.extensions := by
  simp only [parserOfExtension?, List.find?_isSome, h.mem_iff, List.contains_iff_mem]

theorem Records.isForExtension_of_eq_some (h : Records c history) {extension : Text} {p : Parser}
    (hp : c.parserOfExtension? extension = some p) : IsForExtension history extension p := by
  obtain ⟨hlists, before, after, hparsers, hbefore⟩ := List.find?_eq_some_iff_append.mp hp
  refine ⟨(h.mem_iff p).mp (List.mem_of_find?_eq_some hp), List.contains_iff_mem.mp hlists, fun q hq hlisted => ?_⟩
  have hmem := (h.mem_iff q).mpr hq
  have hordered := h.inOrder.ordered
  rw [languages, hparsers, List.map_append, List.map_cons] at hordered
  rw [hparsers] at hmem
  obtain hmem | hmem := List.mem_append.mp hmem
  · have hnot := hbefore q hmem
    rw [List.contains_iff_mem.mpr hlisted] at hnot
    cases hnot
  · obtain rfl | hmem := List.mem_cons.mp hmem
    · exact Nat.le_refl _
    · have hbehind := (List.pairwise_cons.mp (List.pairwise_append.mp hordered).2.1).1
      exact Nat.le_of_lt (hbehind _ (List.mem_map_of_mem hmem))

theorem Records.eq_of_isForExtension (h : Records c history) {extension : Text} {p q : Parser}
    (hp : IsForExtension history extension p) (hq : IsForExtension history extension q) : p = q := by
  have hplace := Nat.le_antisymm (hp.first q hq.current hq.lists) (hq.first p hp.current hp.lists)
  obtain ⟨before, after, rfl, -⟩ := id hp.current
  have hregistered : p.language ∈ (before ++ p :: after).map (·.language) :=
    List.mem_map_of_mem (List.mem_append_right _ List.mem_cons_self)
  exact h.eq_of_language ((h.mem_iff p).mpr hp.current) ((h.mem_iff q).mpr hq.current)
    ((List.idxOf_inj hregistered).mp hplace)

/-- The parser that is found for an extension is exactly the one for it. -/
theorem Records.parserOfExtension?_eq_some_iff (h : Records c history) {extension : Text} {p : Parser} :
    c.parserOfExtension? extension = some p ↔ IsForExtension history extension p := by
  refine ⟨h.isForExtension_of_eq_some, fun hp => ?_⟩
  have hsome := h.isSome_parserOfExtension?_iff.mpr ⟨p, hp.current, hp.lists⟩
  obtain ⟨q, hq⟩ := Option.isSome_iff_exists.mp hsome
  rw [hq, h.eq_of_isForExtension (h.isForExtension_of_eq_some hq) hp]

/-- The extensions of all parsers are those of the languages in their order. -/
theorem Records.flatMap_extensions (h : Records c history) :
    c.parsers.flatMap (·.extensions) = c.languages.flatMap c.extensionsOf := by
  rw [languages, List.flatMap_map]
  refine List.flatMap_congr fun p hp => ?_
  rw [extensionsOf, h.parser?_eq_some_iff.mpr ⟨rfl, (h.mem_iff p).mp hp⟩]
  rfl

/-- The language of a file is that of the parser that is found for its extension, and else what a catalog without
parsers makes of the content of a file without a name. -/
theorem detect_eq (c : Catalog) (filename content : Text) :
    c.detect filename content =
      ((c.parserOfExtension? (fileExtension filename)).map (·.language)).getD (empty.detect [] content) := by
  rw [detect]
  cases c.parserOfExtension? (fileExtension filename) <;> rfl

/-- After any registrations, on top of any earlier ones, the languages are those of the history, each once and
in the order of their first registrations. The parser of a language is the last one that was registered for it; that of
an extension is, of the current parsers that list it in small letters, the one whose language came first. The
extensions are those of the current parsers in the order of their languages, each once where it stands first. The
language of a file is that of the parser for its extension, and without one it hangs on the content alone. -/
theorem contents_of_registrations (earlier later : List Parser) :
    let history := earlier ++ later
    let c := later.foldl register (ofParsers earlier)
    Text.IsFirstSeen (history.map (·.language)) c.languages ∧
      (∀ language p, c.parser? language = some p ↔ p.language = language ∧ IsCurrent history p) ∧
      (∀ language, (c.parser? language).isSome ↔ language ∈ history.map (·.language)) ∧
      (∀ extension p, c.parserOfExtension? extension = some p ↔ IsForExtension history extension p) ∧
      (∀ extension, (c.parserOfExtension? extension).isSome ↔
        ∃ p, IsCurrent history p ∧ Text.lower extension ∈ p.extensions) ∧
      Text.IsFirstSeen (c.languages.flatMap c.extensionsOf) c.extensions ∧
      ∀ filename content, c.detect filename content =
        ((c.parserOfExtension? (fileExtension filename)).map (·.language)).getD (empty.detect [] content) := by
  intro history c
  have h : Records c history := (records_ofParsers earlier).foldl_register later
  refine ⟨h.inOrder, fun _ _ => h.parser?_eq_some_iff, fun _ => h.isSome_parser?_iff,
    fun _ _ => h.parserOfExtension?_eq_some_iff, fun _ => h.isSome_parserOfExtension?_iff, ?_, detect_eq c⟩
  rw [← h.flatMap_extensions]
  exact Text.isFirstSeen_firstSeen _

/-- A language that is registered again keeps its place, and what only its first parser listed is gone. -/
example :
    let c := builtin.register { Parser.javaScript with extensions := [".es".toList, ".js".toList] }
    c.languages = builtin.languages ∧ c.extensions.take 3 = [".es", ".js", ".ts"].map String.toList ∧
      (c.parserOfExtension? ".mjs".toList).isNone := by
  decide +kernel

end Wording.Catalog
