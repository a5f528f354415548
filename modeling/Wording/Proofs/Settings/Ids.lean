import Mathlib.Data.List.Duplicate
import Wording.Proofs.Settings.Kinds

/-! # The ids of the terms that a document describes

Each id is given with its item or generated for its place in the whole list of terms. Generated ids differ from each
other and from those of the built-in terms, but nothing keeps them apart from the ids that are given: a document whose
items and given ids are all right is refused exactly when the id that is generated for one item is given with another.

The ids of a list are, in some order, those given and those generated for the open places (`DescribesAll.ids_perm`), and
each of the two lists is free of repetitions on its own, as is that of the built-in terms. So an id stands twice exactly
if the two share it (`duplicate_iff_shared`), which is brought back to the refusal by what the search for a repeated id
finds (`repeatedId?_eq_some`).
-/

set_option autoImplicit false

namespace Wording.Settings

/-! ## Given and generated ids -/

/-- The id that an item of the list of terms gives for its term, if it gives one that can be written. -/
def givenId? (room : Rooms) (v : Value) : Option Text :=
  match v.opened with
  | .map entry => (Value.lookup entry "id").bind fun w => (w.asText (room .entry)).toOption
  | _ => none

def givenIds (room : Rooms) (items : List Value) : List Text := items.filterMap (givenId? room)

/-- The places in the whole list of terms of the items that give no id, behind so many other terms. -/
def openPlaces (room : Rooms) (before : Nat) : List Value → List Nat
  | [] => []
  | v :: rest =>
    if givenId? room v = none then (before + 1) :: openPlaces room (before + 1) rest
    else openPlaces room (before + 1) rest

/-- That an id is generated for one item and given with another. -/
def Clashes (room : Rooms) (before : Nat) (items : List Value) (id : Text) : Prop :=
  id ∈ givenIds room items ∧ id ∈ (openPlaces room before items).map generatedId

variable {room : Rooms}

/-- Different places have different ids. -/
theorem generatedId_injective : Function.Injective generatedId := by
  intro first second h
  have hdigits : Nat.toDigits 10 first = Nat.toDigits 10 second := List.append_cancel_left h
  calc
    first = Nat.ofDigitChars 10 (Nat.toDigits 10 first) 0 := Nat.ofDigitChars_ten_toDigits.symm
    _ = Nat.ofDigitChars 10 (Nat.toDigits 10 second) 0 := by rw [hdigits]
    _ = second := Nat.ofDigitChars_ten_toDigits

theorem lt_of_mem_openPlaces {items : List Value} {before place : Nat} (h : place ∈ openPlaces room before items) :
    before < place := by
  induction items generalizing before with
  | nil => cases h
  | cons v rest ih =>
    rw [openPlaces] at h
    split at h
    · obtain rfl | h := List.mem_cons.mp h
      · exact Nat.lt_succ_self before
      · exact Nat.lt_of_succ_lt (ih h)
    · exact Nat.lt_of_succ_lt (ih h)

/-- No two items share a place. -/
theorem nodup_openPlaces (items : List Value) (before : Nat) : (openPlaces room before items).Nodup := by
  induction items generalizing before with
  | nil => exact List.nodup_nil
  | cons v rest ih =>
    rw [openPlaces]
    split
    · exact List.nodup_cons.mpr ⟨fun h => Nat.lt_irrefl _ (lt_of_mem_openPlaces h), ih (before + 1)⟩
    · exact ih (before + 1)

theorem ne_generatedId_of_mem_keptTerms {given : Option Value} {t : Term} (h : t ∈ keptTerms given) (place : Nat) :
    t.id ≠ generatedId place := by
  have hbuiltin : t ∈ builtinTerms := by
    rw [keptTerms] at h
    split at h
    · exact h
    · cases h
  have hnumbers : ∀ u ∈ builtinTerms, u.id.head? ≠ some 'c' := by decide
  intro hid
  apply hnumbers t hbuiltin
  rw [hid]
  rfl

theorem nodup_keptTerms (given : Option Value) : ((keptTerms given).map (·.id)).Nodup := by
  rw [keptTerms]
  split
  · exact builtin.distinct
  · exact List.nodup_nil

/-! ## The ids of a list -/

/-- The id of the term that an item describes is the given one, or the one generated for its place. -/
theorem Describes.id_eq {place : Nat} {v : Value} {t : Term} (h : Describes room place v t) :
    t.id = (givenId? room v).getD (generatedId place) := by
  rw [givenId?]
  obtain ⟨entry, hopened, hentry⟩ | ⟨htext, hentry⟩ := h
  · have hid := hentry.id
    rw [hopened]
    show t.id = ((Value.lookup entry "id").bind fun w => (w.asText (room .entry)).toOption).getD (generatedId place)
    cases hgiven : Value.lookup entry "id" with
    | none =>
      rw [hgiven] at hid
      exact hid
    | some w =>
      rw [hgiven] at hid
      have hwritten : w.asText (room .entry) = .ok t.id := hid
      rw [Option.bind_some, hwritten]
      rfl
  · have hnone : Value.lookup [(.text "term".toList, v.opened)] "id" = none := rfl
    have hid := hentry.id
    rw [hnone, Takes] at hid
    generalize v.opened = w at htext
    cases w with
    | map entry => cases htext
    | _ => exact hid

/-- What an entry describes at one place, it describes at every other, but for the id if it gives none. -/
theorem DescribesEntry.exists_at {place : Nat} {entry : List (Value × Value)} {t : Term}
    (h : DescribesEntry room place entry t) (other : Nat) : ∃ u, DescribesEntry room other entry u := by
  have hgiven := h.id
  cases hid : Value.lookup entry "id" with
  | none => exact ⟨{ t with id := generatedId other }, h.text, by rw [hid]; rfl, h.category, h.severity, h.suggestions⟩
  | some w =>
    rw [hid] at hgiven
    exact ⟨t, h.text, by rw [hid]; exact hgiven, h.category, h.severity, h.suggestions⟩

/-- An item that describes a term at one place describes one at every other. -/
theorem Describes.exists_at {place : Nat} {v : Value} {t : Term} (h : Describes room place v t) (other : Nat) :
    ∃ u, Describes room other v u := by
  obtain ⟨entry, hopened, hentry⟩ | ⟨htext, hentry⟩ := h
  · obtain ⟨u, hu⟩ := hentry.exists_at other
    exact ⟨u, .inl ⟨entry, hopened, hu⟩⟩
  · obtain ⟨u, hu⟩ := hentry.exists_at other
    exact ⟨u, .inr ⟨htext, hu⟩⟩

/-- Items that each describe a term describe terms in a list, wherever it begins. -/
theorem exists_describesAll {place : Nat} {items : List Value} (h : ∀ v ∈ items, ∃ t, Describes room place v t)
    (before : Nat) : ∃ own, DescribesAll room before items own := by
  induction items generalizing before with
  | nil => exact ⟨[], describesAll_nil_iff.mpr rfl⟩
  | cons v rest ih =>
    obtain ⟨⟨t, ht⟩, hrest⟩ := List.forall_mem_cons.mp h
    obtain ⟨u, hu⟩ := ht.exists_at (before + 1)
    obtain ⟨others, hothers⟩ := ih hrest (before + 1)
    exact ⟨u :: others, describesAll_cons_iff.mpr ⟨u, others, hu, hothers, rfl⟩⟩

/-- The ids of the terms of a list are, in some order, the given ones and those generated for the other places. -/
theorem DescribesAll.ids_perm {before : Nat} {items : List Value} {own : List Term}
    (h : DescribesAll room before items own) :
    (own.map (·.id)).Perm (givenIds room items ++ (openPlaces room before items).map generatedId) := by
  induction items generalizing before own with
  | nil =>
    rw [describesAll_nil_iff.mp h]
    exact .nil
  | cons v rest ih =>
    obtain ⟨t, others, hfirst, hothers, rfl⟩ := describesAll_cons_iff.mp h
    have hid := hfirst.id_eq
    rw [List.map_cons, givenIds, openPlaces]
    cases hgiven : givenId? room v with
    | none =>
      rw [List.filterMap_cons_none hgiven, if_pos rfl, List.map_cons, hid, hgiven]
      exact ((ih hothers).cons _).trans List.perm_middle.symm
    | some id =>
      rw [List.filterMap_cons_some hgiven, if_neg nofun, hid, hgiven]
      exact (ih hothers).cons _

/-! ## Repeated ids -/

/-- The repeated id that is found stands among the ids seen before, or twice among the others. -/
theorem repeatedId?_eq_some {seen : List Text} {terms : List Term} {id : Text}
    (h : repeatedId? seen terms = some id) :
    id ∈ seen ∧ id ∈ terms.map (·.id) ∨ (terms.map (·.id)).Duplicate id := by
  induction terms generalizing seen with
  | nil => cases h
  | cons t rest ih =>
    rw [repeatedId?] at h
    rw [List.map_cons]
    split at h
    next hseen =>
      cases h
      exact .inl ⟨List.contains_iff_mem.mp hseen, List.mem_cons_self⟩
    next =>
      obtain ⟨hmem, hrest⟩ | hrest := ih h
      · obtain rfl | hmem := List.mem_cons.mp hmem
        · exact .inr (List.Mem.duplicate_cons_self hrest)
        · exact .inl ⟨hmem, List.mem_cons_of_mem _ hrest⟩
      · exact .inr (hrest.duplicate_cons _)

/-- Where no repeated id is found, the ids differ from each other and from those seen before. -/
theorem nodup_of_repeatedId?_eq_none {seen : List Text} {terms : List Term} (h : repeatedId? seen terms = none) :
    (terms.map (·.id)).Nodup ∧ ∀ id ∈ terms.map (·.id), id ∉ seen := by
  induction terms generalizing seen with
  | nil => exact ⟨List.nodup_nil, nofun⟩
  | cons t rest ih =>
    rw [repeatedId?] at h
    rw [List.map_cons]
    split at h
    next => cases h
    next hseen =>
      obtain ⟨hnodup, hrest⟩ := ih h
      refine ⟨List.nodup_cons.mpr ⟨fun hmem => hrest _ hmem List.mem_cons_self, hnodup⟩, ?_⟩
      refine List.forall_mem_cons.mpr ⟨fun hmem => hseen (List.contains_iff_mem.mpr hmem), ?_⟩
      exact fun id hid hmem => hrest id hid (List.mem_cons_of_mem _ hmem)

/-- Fields with a positive time make settings if the ids of the terms differ, and else one of those that stand twice is
refused. -/
theorem make_cases {time : Int} (hpositive : 0 < time) (terms : List Term)
    (identifiers strings comments sensitive : Bool) :
    ((terms.map (·.id)).Nodup ∧ ∃ s, make terms time identifiers strings comments sensitive = .ok s) ∨
      ∃ id, (terms.map (·.id)).Duplicate id ∧
        make terms time identifiers strings comments sensitive = .error (.duplicateId id) := by
  rw [make, dif_pos hpositive]
  by_cases hdistinct : (terms.map (·.id)).Nodup
  · rw [dif_pos hdistinct]
    exact .inl ⟨hdistinct, _, rfl⟩
  · rw [dif_neg hdistinct]
    cases hrepeated : repeatedId? [] terms with
    | none => exact absurd (nodup_of_repeatedId?_eq_none hrepeated).1 hdistinct
    | some id =>
      refine .inr ⟨id, ?_, rfl⟩
      obtain ⟨hmem, -⟩ | hduplicate := repeatedId?_eq_some hrepeated
      · cases hmem
      · exact hduplicate

variable {base : Settings} {entries : List (Value × Value)} {items : List Value}

/-- Of three lists without repetition of which the first is apart from the others, a list that holds them all holds an
item twice exactly if the second and the third share it. -/
theorem duplicate_iff_shared {α : Type} {all first second third : List α}
    (hall : all.Perm (first ++ (second ++ third))) (hfirst : first.Nodup) (hsecond : second.Nodup)
    (hthird : third.Nodup) (hapartSecond : ∀ a ∈ first, a ∉ second) (hapartThird : ∀ a ∈ first, a ∉ third) (a : α) :
    all.Duplicate a ↔ a ∈ second ∧ a ∈ third := by
  classical
  have hfirstOnce := List.nodup_iff_count_le_one.mp hfirst a
  have hsecondOnce := List.nodup_iff_count_le_one.mp hsecond a
  have hthirdOnce := List.nodup_iff_count_le_one.mp hthird a
  have hsecondMem := hapartSecond a
  have hthirdMem := hapartThird a
  rw [List.duplicate_iff_two_le_count, hall.count_eq, List.count_append, List.count_append]
  simp only [← List.count_pos_iff] at hsecondMem hthirdMem ⊢
  omega

/-- Where the given ids differ from each other and from those of the terms that are kept, an id stands twice in the
whole list exactly if it is generated for one item and given with another. -/
theorem DescribesAll.duplicate_iff {defaults : Option Value} {own : List Term}
    (h : DescribesAll room (keptTerms defaults).length items own) (hdistinct : (givenIds room items).Nodup)
    (hapart : ∀ t ∈ keptTerms defaults, t.id ∉ givenIds room items) (id : Text) :
    ((keptTerms defaults ++ own).map (·.id)).Duplicate id ↔ Clashes room (keptTerms defaults).length items id := by
  rw [List.map_append]
  refine duplicate_iff_shared (h.ids_perm.append_left _) (nodup_keptTerms defaults) hdistinct
    ((nodup_openPlaces items _).map generatedId_injective) (List.forall_mem_map.mpr hapart) ?_ id
  refine List.forall_mem_map.mpr fun t ht hplace => ?_
  obtain ⟨place, -, hplace⟩ := List.mem_map.mp hplace
  exact ne_generatedId_of_mem_keptTerms ht place hplace.symm

/-- A document whose items each describe a term gives terms, and an id stands twice among them exactly if it is
generated for one item and given with another. -/
theorem exists_terms?_duplicate_iff (hlists : ListsItems (Value.lookup entries "terms") items)
    (hvalid : ∀ v ∈ items, ∃ t, Describes room 1 v t) (hdistinct : (givenIds room items).Nodup)
    (hapart : ∀ t ∈ keptTerms (Value.lookup entries "include_defaults"), t.id ∉ givenIds room items) (base : Settings) :
    ∃ given, terms? room entries = .ok given ∧ ∀ id, ((given.getD base.terms).map (·.id)).Duplicate id ↔
      Clashes room (keptTerms (Value.lookup entries "include_defaults")).length items id := by
  obtain ⟨own, hown⟩ := exists_describesAll hvalid (keptTerms (Value.lookup entries "include_defaults")).length
  have htaken (h : TakesTerms room entries base.terms (keptTerms (Value.lookup entries "include_defaults") ++ own)) :
      ∃ given, terms? room entries = .ok given ∧ ∀ id, ((given.getD base.terms).map (·.id)).Duplicate id ↔
        Clashes room (keptTerms (Value.lookup entries "include_defaults")).length items id := by
    obtain ⟨given, hgiven, hresult⟩ := exists_terms?_iff.mpr h
    exact ⟨given, hgiven, hresult ▸ hown.duplicate_iff hdistinct hapart⟩
  cases hterms : Value.lookup entries "terms" with
  | none =>
    cases hdefaults : Value.lookup entries "include_defaults" with
    | none =>
      -- nothing is said of terms, so those of the base stay
      rw [hterms] at hlists
      obtain rfl : items = [] := hlists
      have hnone : terms? room entries = .ok none := by rw [terms?_eq, hterms, hdefaults]
      refine ⟨none, hnone, fun id => iff_of_false ?_ fun h => absurd h.1 List.not_mem_nil⟩
      exact List.nodup_iff_forall_not_duplicate.mp base.distinct id
    | some v =>
      rw [hdefaults] at htaken
      refine htaken ?_
      rw [TakesTerms, hterms, hdefaults]
      exact ⟨items, own, hterms ▸ hlists, hdefaults ▸ hown, rfl⟩
  | some w =>
    refine htaken ?_
    rw [TakesTerms, hterms]
    exact ⟨items, own, hterms ▸ hlists, hown, rfl⟩

/-- A document with flags and seconds of the right kind, whose items each describe a term as the only one of a list, and
whose given ids differ from each other and from those of the built-in terms that stay, makes settings over every base
exactly if no id is generated for one item and given with another. It is never refused for anything but such an id. -/
theorem layer_clashes (room : Rooms) (base : Settings) (hnumbers : GivesRightNumbers entries)
    (hlists : ListsItems (Value.lookup entries "terms") items) (hvalid : ∀ v ∈ items, ∃ t, termOfValue room 1 v = .ok t)
    (hdistinct : (givenIds room items).Nodup)
    (hapart : ∀ t ∈ keptTerms (Value.lookup entries "include_defaults"), t.id ∉ givenIds room items) :
    ((∃ s, layer room base entries = .ok s) ↔
        ∀ id, ¬ Clashes room (keptTerms (Value.lookup entries "include_defaults")).length items id) ∧
      ∀ fault, layer room base entries = .error fault →
        ∃ id, Clashes room (keptTerms (Value.lookup entries "include_defaults")).length items id ∧
          fault = .duplicateId id := by
  have hdescribes : ∀ v ∈ items, ∃ t, Describes room 1 v t := by
    intro v hv
    obtain ⟨t, ht⟩ := hvalid v hv
    exact ⟨t, termOfValue_eq_ok_iff.mp ht⟩
  obtain ⟨given, hgiven, hduplicate⟩ := exists_terms?_duplicate_iff hlists hdescribes hdistinct hapart base
  obtain ⟨time, identifiers, strings, comments, sensitive, hpositive, hlayer⟩ := hnumbers.layer_eq room base
  have hmake : layer room base entries = make (given.getD base.terms) time identifiers strings comments sensitive := by
    rw [hlayer, hgiven]
    rfl
  rw [hmake]
  obtain ⟨hnodup, s, hs⟩ | ⟨id, htwice, hrefused⟩ :=
    make_cases hpositive (given.getD base.terms) identifiers strings comments sensitive
  · have hnone : ∀ id, ¬ Clashes room (keptTerms (Value.lookup entries "include_defaults")).length items id :=
      fun id h => List.nodup_iff_forall_not_duplicate.mp hnodup id ((hduplicate id).mpr h)
    exact ⟨iff_of_true ⟨s, hs⟩ hnone, fun fault h => by rw [hs] at h; cases h⟩
  · have hclash := (hduplicate id).mp htwice
    rw [hrefused]
    refine ⟨iff_of_false nofun fun h => h id hclash, ?_⟩
    rintro _ ⟨⟩
    exact ⟨id, hclash, rfl⟩

/-- A list of terms of which the first gives no id, and the second that of the third place. -/
def mixedItems : List Value :=
  [.text "guys".toList,
    .map [(.text "term".toList, .text "dudes".toList), (.text "id".toList, .text "custom-3".toList)]]

/-- A document with these terms alone. -/
def mixedDocument : List (Value × Value) :=
  [(.text "include_defaults".toList, .bool false), (.text "terms".toList, .list mixedItems)]

/-- The list has two items, so that nothing clashes with the id of the third place, and there are settings. -/
theorem layer_clashes_mixed :
    GivesRightNumbers mixedDocument ∧ ListsItems (Value.lookup mixedDocument "terms") mixedItems ∧
      (∀ v ∈ mixedItems, ∃ t, termOfValue shallowRooms 1 v = .ok t) ∧
      givenIds shallowRooms mixedItems = ["custom-3".toList] ∧ openPlaces shallowRooms 0 mixedItems = [1] ∧
      ∃ s, layer shallowRooms builtin mixedDocument = .ok s := by
  have hnumbers : GivesRightNumbers mixedDocument := by
    refine ⟨fun name hname v hv => ?_, nofun⟩
    obtain ⟨hdefaults, hterms⟩ := ne_of_mem_flagNames hname
    rw [mixedDocument, Value.lookup_cons_text, if_neg hdefaults, Value.lookup_cons_text, if_neg hterms] at hv
    cases hv
  have hlists : ListsItems (Value.lookup mixedDocument "terms") mixedItems := rfl
  have hvalid : ∀ v ∈ mixedItems, ∃ t, termOfValue shallowRooms 1 v = .ok t := by
    refine List.forall_mem_cons.mpr ⟨⟨_, rfl⟩, List.forall_mem_singleton.mpr ⟨_, rfl⟩⟩
  have hgiven : givenIds shallowRooms mixedItems = ["custom-3".toList] := rfl
  have hplaces : openPlaces shallowRooms 0 mixedItems = [1] := rfl
  refine ⟨hnumbers, hlists, hvalid, hgiven, hplaces, ?_⟩
  refine (layer_clashes shallowRooms builtin hnumbers hlists hvalid (by decide) (by decide)).1.mpr ?_
  rintro id ⟨hid, hplace⟩
  have hkept : (keptTerms (Value.lookup mixedDocument "include_defaults")).length = 0 := rfl
  rw [hkept, hplaces] at hplace
  rw [hgiven, List.mem_singleton] at hid
  rw [hid] at hplace
  exact absurd hplace (by decide)

/-- A list of terms of which the first gives no id, and the second that of the first place. -/
def clashingItems : List Value :=
  [.text "guys".toList,
    .map [(.text "term".toList, .text "dudes".toList), (.text "id".toList, .text "custom-1".toList)]]

/-- Each item of the list is right on its own, and only one of them gives an id, and a document with the list is
refused. -/
theorem layer_of_clashingItems :
    (∀ v ∈ clashingItems, ∃ t, termOfValue shallowRooms 1 v = .ok t) ∧
      givenIds shallowRooms clashingItems = ["custom-1".toList] ∧
      layer shallowRooms builtin
          [(.text "include_defaults".toList, .bool false), (.text "terms".toList, .list clashingItems)] =
        .error (.duplicateId "custom-1".toList) :=
  ⟨List.forall_mem_cons.mpr ⟨⟨_, rfl⟩, List.forall_mem_singleton.mpr ⟨_, rfl⟩⟩, rfl, rfl⟩

end Wording.Settings
