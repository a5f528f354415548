import Wording.Settings.Layer
import Wording.Proofs.Attempt
import Wording.Proofs.Value.Reach

/-! # The terms that a document describes

An item of the list of terms is a text or a mapping, and it describes exactly one term: with the given text, and with
the given id, category, severity and suggestions or those that stand for them where nothing is given. A list of terms
describes one term for each item, in their order.

`Describes` is that relation, defined on the item and its place in the list without any of the steps that the reader
takes; each step has a lemma that says with which part of the relation it succeeds, and the reader as a whole succeeds
with a term exactly if the item describes it (`termOfValue_eq_ok_iff`).
-/

set_option autoImplicit false

namespace Wording

theorem Term.make_eq_ok_iff {id text : Text} {category : Category} {severity : Severity} {suggestions : List Text}
    {t : Term} :
    Term.make id text category severity suggestions = .ok t ↔
      t.id = id ∧ t.text = text ∧ t.category = category ∧ t.severity = severity ∧ t.suggestions = suggestions := by
  rw [Term.make]
  split
  next h =>
    constructor
    · rintro ⟨⟩
      exact ⟨rfl, rfl, rfl, rfl, rfl⟩
    · rintro ⟨rfl, rfl, rfl, rfl, rfl⟩
      rfl
  next h =>
    refine iff_of_false nofun ?_
    rintro ⟨-, rfl, -⟩
    exact h t.notBlank

/-- The choice of a word is the one that has this word, if each choice is found by its own. -/
theorem find?_word_iff {α : Type} {word : α → Text} {choices : List α}
    (hown : ∀ c, choices.find? (fun d => word d = word c) = some c) {t : Text} {c : α} :
    choices.find? (fun d => word d = t) = some c ↔ t = word c := by
  constructor
  · intro h
    have hword := List.find?_some h
    exact (of_decide_eq_true hword).symm
  · rintro rfl
    exact hown c

theorem Category.ofValue_eq_ok_iff {room : Rooms} {v : Value} {c : Category} :
    Category.ofValue room v = .ok c ↔ v = .text c.text := by
  cases v with
  | text t =>
    rw [Category.ofValue, Attempt.elim_eq_ok_iff, Category.ofText?, Value.text.injEq]
    exact find?_word_iff fun c => by cases c <;> rfl
  | _ => exact iff_of_false nofun nofun

theorem Severity.ofValue_eq_ok_iff {room : Rooms} {v : Value} {s : Severity} :
    Severity.ofValue room v = .ok s ↔ v = .text s.text := by
  cases v with
  | text t =>
    rw [Severity.ofValue, Attempt.elim_eq_ok_iff, Severity.ofText?, Value.text.injEq]
    exact find?_word_iff fun s => by cases s <;> rfl
  | _ => exact iff_of_false nofun nofun

namespace Settings

/-- That a result is what is given, in the way that it is read, or the base where nothing is given. -/
def Takes {α : Type} (given : Option Value) (reads : Value → α → Prop) (base result : α) : Prop :=
  match given with
  | none => result = base
  | some v => reads v result

/-- That a value stands for a text: it is the text, or it can be written as the text in a room of so many levels. -/
def StandsFor (levels : Nat) (v : Value) (t : Text) : Prop := v.asText levels = .ok t

/-- That a value suggests some texts: nothing suggests none, a text itself, and a list or a tuple its items. -/
def Suggests (room : Rooms) (v : Value) (texts : List Text) : Prop :=
  (v.opened = .null ∧ texts = []) ∨ (∃ t, v.opened.text? = some t ∧ texts = [t]) ∨
    ∃ items, v.HasItems items ∧ List.Forall₂ (StandsFor (room .suggestion)) items texts

/-- That the entries of a mapping describe a term, at a place in the whole list of terms. -/
structure DescribesEntry (room : Rooms) (place : Nat) (entry : List (Value × Value)) (t : Term) : Prop where
  text : ∃ given text, Value.lookup entry "term" = some given ∧ given.text? = some text ∧ t.text = Text.trim text
  id : Takes (Value.lookup entry "id") (StandsFor (room .entry)) (generatedId place) t.id
  category : Takes (Value.lookup entry "category") (fun v c => v = .text c.text) .other t.category
  severity : Takes (Value.lookup entry "severity") (fun v s => v = .text s.text) .medium t.severity
  suggestions : Takes (Value.lookup entry "suggestions") (Suggests room) [] t.suggestions

/-- That an item of the list of terms describes a term, at a place in the whole list: the item is a mapping, or a text
that stands for the mapping with this text alone. -/
def Describes (room : Rooms) (place : Nat) (v : Value) (t : Term) : Prop :=
  (∃ entry, v.opened = .map entry ∧ DescribesEntry room place entry t) ∨
    v.opened.text?.isSome ∧ DescribesEntry room place [(.text "term".toList, v.opened)] t

/-- That items describe terms one by one, behind so many terms of the whole list. -/
def DescribesAll (room : Rooms) (before : Nat) (items : List Value) (own : List Term) : Prop :=
  own.length = items.length ∧
    ∀ i v t, items[i]? = some v → own[i]? = some t → Describes room (before + (i + 1)) v t

variable {room : Rooms}

theorem textOf_eq_ok_iff {levels : Nat} {v : Value} {t : Text} : textOf levels v = .ok t ↔ StandsFor levels v t :=
  Attempt.mapError_eq_ok_iff

theorem standsFor_of_text {levels : Nat} {v : Value} {t text : Text} (h : v.text? = some text) :
    StandsFor levels v t ↔ t = text := by
  have hwritten : v.asText levels = .ok text := by
    cases v with
    | text => exact congrArg Except.ok (Option.some.inj h)
    | halves => exact congrArg Except.ok (Option.some.inj h)
    | _ => cases h
  rw [StandsFor, hwritten, Except.ok.injEq]
  exact eq_comm

/-- The suggestions of an entry are read as the texts that are suggested. -/
theorem suggestions_eq_ok_iff {given : Option Value} {texts : List Text} :
    suggestionsOf room given >>= (·.mapM (textOf (room .suggestion))) = .ok texts ↔
      Takes given (Suggests room) [] texts := by
  have hitems : ∀ items : List Value, items.mapM (textOf (room .suggestion)) = .ok texts ↔
      List.Forall₂ (StandsFor (room .suggestion)) items texts := by
    intro items
    simp only [Attempt.mapM_eq_ok_iff, textOf_eq_ok_iff]
  have hnone : ([] : List Value).mapM (textOf (room .suggestion)) = .ok texts ↔ texts = [] := by
    rw [hitems, List.forall₂_nil_left_iff]
  have hsingle : ∀ {w : Value} {t : Text}, w.text? = some t →
      ([w].mapM (textOf (room .suggestion)) = .ok texts ↔ texts = [t]) := by
    intro w t hw
    simp only [hitems, List.forall₂_cons_left_iff, List.forall₂_nil_left_iff, standsFor_of_text hw]
    exact ⟨fun ⟨_, _, ht, hrest, h⟩ => by rw [h, ht, hrest], fun h => ⟨t, [], rfl, rfl, h⟩⟩
  cases given with
  | none => exact hnone
  | some v =>
    rw [Takes, Suggests, suggestionsOf, Option.getD_some]
    unfold Value.HasItems
    cases hv : v.opened with
    | null =>
      simp only [Value.text?, reduceCtorEq, false_and, exists_false, or_self, or_false, true_and]
      exact hnone
    | list items =>
      simp only [Value.text?, reduceCtorEq, false_and, exists_false, false_or, or_false, Value.list.injEq,
        exists_eq_left']
      exact hitems items
    | tuple items =>
      simp only [Value.text?, reduceCtorEq, false_and, exists_false, false_or, Value.tuple.injEq, exists_eq_left']
      exact hitems items
    | text t =>
      simp only [Value.text?, reduceCtorEq, false_and, exists_false, false_or, or_self, or_false, Option.some.injEq,
        exists_eq_left']
      exact @hsingle (.text t) t rfl
    | halves codes =>
      simp only [Value.text?, reduceCtorEq, false_and, exists_false, false_or, or_self, or_false, Option.some.injEq,
        exists_eq_left']
      exact @hsingle (.halves codes) _ rfl
    | _ =>
      simp only [Value.text?, reduceCtorEq, false_and, exists_false, or_self, iff_false]
      exact nofun

theorem choice_eq_ok_iff {α : Type} {ofValue : Value → Except UnknownChoice α} {word : α → Text}
    (hread : ∀ {v c}, ofValue v = .ok c ↔ v = .text (word c)) (base : α) {given : Option Value} {c : α} :
    (ofValue (given.getD (.text (word base)))).mapError SettingsError.ofUnknownChoice = .ok c ↔
      Takes given (fun v c => v = .text (word c)) base c := by
  rw [Attempt.mapError_eq_ok_iff]
  cases given with
  | none =>
    rw [Option.getD_none, hread.mpr rfl, Except.ok.injEq, Takes]
    exact eq_comm
  | some v => exact hread

theorem id_eq_ok_iff {given : Option Value} {generated id : Text} :
    (given.map (textOf (room .entry))).getD (.ok generated) = .ok id ↔
      Takes given (StandsFor (room .entry)) generated id := by
  cases given with
  | none =>
    rw [Option.map_none, Option.getD_none, Except.ok.injEq, Takes]
    exact eq_comm
  | some v => exact textOf_eq_ok_iff

/-- The entries of a mapping are read as the term that they describe. -/
theorem termOfEntries_eq_ok_iff {place : Nat} {mapping : Value} {entry : List (Value × Value)} {t : Term} :
    termOfEntries room place mapping entry = .ok t ↔ DescribesEntry room place entry t := by
  rw [termOfEntries]
  simp only [Attempt.bind_eq_ok_iff, Attempt.elim_eq_ok_iff]
  constructor
  · rintro ⟨given, hgiven, h⟩
    cases htext : given.text? with
    | none =>
      rw [htext] at h
      cases h
    | some text =>
      simp only [htext, Attempt.bind_eq_ok_iff, choice_eq_ok_iff (@Category.ofValue_eq_ok_iff room),
        choice_eq_ok_iff (@Severity.ofValue_eq_ok_iff room), id_eq_ok_iff, Term.make_eq_ok_iff] at h
      obtain ⟨suggestions, hsuggestions, _, hcategory, _, hseverity, _, hid, _, htexts, rfl, htrim, rfl, rfl, rfl⟩ := h
      exact ⟨⟨given, text, hgiven, htext, htrim⟩, hid, hcategory, hseverity,
        suggestions_eq_ok_iff.mp (Attempt.bind_eq_ok_iff.mpr ⟨suggestions, hsuggestions, htexts⟩)⟩
  · rintro ⟨⟨given, text, hgiven, htext, htrim⟩, hid, hcategory, hseverity, hsuggests⟩
    obtain ⟨suggestions, hsuggestions, htexts⟩ := Attempt.bind_eq_ok_iff.mp (suggestions_eq_ok_iff.mpr hsuggests)
    refine ⟨given, hgiven, ?_⟩
    simp only [htext, Attempt.bind_eq_ok_iff, choice_eq_ok_iff (@Category.ofValue_eq_ok_iff room),
      choice_eq_ok_iff (@Severity.ofValue_eq_ok_iff room), id_eq_ok_iff, Term.make_eq_ok_iff]
    exact ⟨suggestions, hsuggestions, _, hcategory, _, hseverity, _, hid, _, htexts, rfl, htrim, rfl, rfl, rfl⟩

/-- An item of the list of terms is read as the term that it describes. -/
theorem termOfValue_eq_ok_iff {place : Nat} {v : Value} {t : Term} :
    termOfValue room place v = .ok t ↔ Describes room place v t := by
  rw [termOfValue, Describes]
  cases v.opened with
  | map entry =>
    simp only [termOfEntries_eq_ok_iff, Value.text?, Option.isSome_none, Bool.false_eq_true, false_and, or_false,
      Value.map.injEq, exists_eq_left']
  | text t =>
    simp only [termOfEntries_eq_ok_iff, Value.text?, Option.isSome_some, reduceCtorEq, false_and, exists_false,
      if_true, false_or, true_and]
  | halves codes =>
    simp only [termOfEntries_eq_ok_iff, Value.text?, Option.isSome_some, reduceCtorEq, false_and, exists_false,
      if_true, false_or, true_and]
  | _ =>
    simp only [Value.text?, Option.isSome_none, reduceCtorEq, Bool.false_eq_true, false_and, exists_false, if_false,
      or_self]

theorem describesAll_nil_iff {before : Nat} {own : List Term} : DescribesAll room before [] own ↔ own = [] := by
  rw [DescribesAll, List.length_nil, List.length_eq_zero_iff]
  exact ⟨fun h => h.1, fun h => ⟨h, nofun⟩⟩

theorem describesAll_cons_iff {before : Nat} {v : Value} {rest : List Value} {own : List Term} :
    DescribesAll room before (v :: rest) own ↔
      ∃ t others, Describes room (before + 1) v t ∧ DescribesAll room (before + 1) rest others ∧
        own = t :: others := by
  constructor
  · rintro ⟨hlength, hall⟩
    obtain ⟨t, others, rfl⟩ := List.exists_cons_of_length_eq_add_one hlength
    refine ⟨t, others, hall 0 v t rfl rfl, ⟨Nat.succ.inj hlength, ?_⟩, rfl⟩
    intro i w u hw hu
    rw [Nat.add_right_comm, Nat.add_assoc]
    exact hall (i + 1) w u hw hu
  · rintro ⟨t, others, hfirst, ⟨hlength, hall⟩, rfl⟩
    refine ⟨congrArg (· + 1) hlength, ?_⟩
    intro i w u hw hu
    cases i with
    | zero =>
      cases hw
      cases hu
      exact hfirst
    | succ i =>
      rw [← Nat.add_assoc, Nat.add_right_comm]
      exact hall i w u hw hu

/-- The items of a list are read as the terms that they describe. -/
theorem termsOfList_eq_ok_iff {before : Nat} {items : List Value} {own : List Term} :
    termsOfList room before items = .ok own ↔ DescribesAll room before items own := by
  induction items generalizing before own with
  | nil =>
    rw [termsOfList, Except.ok.injEq, describesAll_nil_iff]
    exact eq_comm
  | cons v rest ih =>
    rw [termsOfList, describesAll_cons_iff]
    simp only [Attempt.bind_eq_ok_iff, termOfValue_eq_ok_iff, ih]
    constructor
    · rintro ⟨t, hfirst, others, hrest, ⟨⟩⟩
      exact ⟨t, others, hfirst, hrest, rfl⟩
    · rintro ⟨t, others, hfirst, hrest, rfl⟩
      exact ⟨t, hfirst, others, hrest, rfl⟩

end Settings

end Wording
