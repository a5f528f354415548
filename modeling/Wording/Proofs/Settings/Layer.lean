import Mathlib.Algebra.Ring.Int.Defs
import Wording.Proofs.Value.Reach
import Wording.Proofs.Settings.Terms

/-! # Settings laid over others

The settings that come out are exactly those that take each field from the document where it is given there, and from
the base where it is not. `Layered` says this field by field, apart from the order in which the reader comes to them,
and `layer_eq_ok_iff` is both directions of it.

The other half is which documents are refused, and how. Each step of the reader is shown to fail with a refusal, or
because a value that it has to write cannot be written: an integer of too many digits, or a value that is nested too
deeply for the room at that place. Which values a step can come to is followed through the document by `Value.Holds`, so
that a fault that is no refusal is always accounted for by a value of the document (`IsAccountedFor`).
-/

set_option autoImplicit false

namespace Wording

/-- That a fault is a refusal of settings, and not what stands in the way of wording one. -/
def SettingsError.IsRefusal : SettingsError → Prop
  | .unwritable _ => False
  | _ => True

namespace Settings

/-! ## What comes out -/

/-- The built-in terms that stay before the terms of a document: all of them, unless what is given for them counts as
a no. -/
def keptTerms (given : Option Value) : List Term :=
  if (given.getD (.bool true)).isTruthy then builtinTerms else []

/-- That items are those of a list of terms; what counts as a no has none. -/
def ListsItems (given : Option Value) (items : List Value) : Prop :=
  if (given.getD .null).isTruthy then (given.getD .null).opened = .list items else items = []

/-- That terms are those of the base where a document says nothing of terms, and else the built-in ones that stay and
behind them those that the items of its list describe. -/
def TakesTerms (room : Rooms) (entries : List (Value × Value)) (base terms : List Term) : Prop :=
  match Value.lookup entries "terms", Value.lookup entries "include_defaults" with
  | none, none => terms = base
  | given, defaults => ∃ items own, ListsItems given items ∧
      DescribesAll room (keptTerms defaults).length items own ∧ terms = keptTerms defaults ++ own

/-- That settings take each field from the entries of a document, or from a base where nothing is given. -/
structure Layered (room : Rooms) (base : Settings) (entries : List (Value × Value)) (s : Settings) : Prop where
  terms : TakesTerms room entries base.terms s.terms
  timePerFix : Takes (Value.lookup entries "time_per_fix") (fun v n => v = .int n) base.timePerFix s.timePerFix
  includeIdentifiers : Takes (Value.lookup entries "include_identifiers") (fun v b => v = .bool b)
    base.includeIdentifiers s.includeIdentifiers
  includeStrings : Takes (Value.lookup entries "include_strings") (fun v b => v = .bool b)
    base.includeStrings s.includeStrings
  includeComments : Takes (Value.lookup entries "include_comments") (fun v b => v = .bool b)
    base.includeComments s.includeComments
  caseSensitive : Takes (Value.lookup entries "case_sensitive") (fun v b => v = .bool b)
    base.caseSensitive s.caseSensitive

variable {room : Rooms}

/-- Settings are made of exactly their own fields. -/
theorem make_eq_ok_iff {terms : List Term} {time : Int} {identifiers strings comments sensitive : Bool}
    {s : Settings} :
    make terms time identifiers strings comments sensitive = .ok s ↔
      s.terms = terms ∧ s.timePerFix = time ∧ s.includeIdentifiers = identifiers ∧ s.includeStrings = strings ∧
        s.includeComments = comments ∧ s.caseSensitive = sensitive := by
  rw [make]
  split
  next hpositive =>
    split
    next hdistinct =>
      constructor
      · rintro ⟨⟩
        exact ⟨rfl, rfl, rfl, rfl, rfl, rfl⟩
      · rintro ⟨rfl, rfl, rfl, rfl, rfl, rfl⟩
        rfl
    next hrepeated =>
      refine iff_of_false nofun ?_
      rintro ⟨rfl, -⟩
      exact hrepeated s.distinct
  next hnone =>
    refine iff_of_false nofun ?_
    rintro ⟨-, rfl, -⟩
    exact hnone s.positive

theorem exists_flag?_iff {entries : List (Value × Value)} {name : String} {base result : Bool} :
    (∃ given, flag? room entries name = .ok given ∧ result = given.getD base) ↔
      Takes (Value.lookup entries name) (fun v b => v = .bool b) base result := by
  rw [flag?]
  cases Value.lookup entries name with
  | none => simp only [Except.ok.injEq, exists_eq_left', Option.getD_none, Takes]
  | some v =>
    cases v with
    | bool b =>
      simp only [Except.ok.injEq, exists_eq_left', Option.getD_some, Takes, Value.bool.injEq]
      exact eq_comm
    | _ => simp only [reduceCtorEq, false_and, exists_false, Takes]

/-- The seconds for a fix are taken from a document, or from the base. -/
theorem exists_seconds_iff {given : Option Value} {base result : Int} :
    (∃ seconds, given.mapM (secondsOfValue room) = .ok seconds ∧ result = seconds.getD base) ↔
      Takes given (fun v n => v = .int n) base result := by
  cases given with
  | none => simp only [Option.mapM_none, pure, Except.pure, Except.ok.injEq, exists_eq_left', Option.getD_none, Takes]
  | some v =>
    cases v with
    | int n =>
      have hseconds : (some (Value.int n)).mapM (secondsOfValue room) = .ok (some n) := rfl
      simp only [hseconds, Except.ok.injEq, exists_eq_left', Option.getD_some, Takes, Value.int.injEq]
      exact eq_comm
    | _ => exact iff_of_false (by rintro ⟨_, ⟨⟩, _⟩) (by rintro ⟨⟩)

/-- What a list of terms gives behind the terms that are kept. -/
def listedTerms (room : Rooms) (kept : List Term) (given : Option Value) : Except SettingsError (Option (List Term)) :=
  if (given.getD .null).isTruthy then
    match (given.getD .null).opened with
    | .list items => (termsOfList room kept.length items).map fun own => some (kept ++ own)
    | _ => .error .termsNotList
  else .ok (some kept)

/-- A document that says something of terms gives those that are kept and those of its list. -/
theorem terms?_eq (entries : List (Value × Value)) :
    terms? room entries =
      match Value.lookup entries "terms", Value.lookup entries "include_defaults" with
      | none, none => .ok none
      | given, defaults => listedTerms room (keptTerms defaults) given := by
  rw [terms?]
  rfl

/-- Behind the terms that are kept, those of a list are taken from its items. -/
theorem exists_listedTerms_iff {kept base result : List Term} {given : Option Value} :
    (∃ terms, listedTerms room kept given = .ok terms ∧ result = terms.getD base) ↔
      ∃ items own, ListsItems given items ∧ DescribesAll room kept.length items own ∧ result = kept ++ own := by
  unfold ListsItems listedTerms
  split
  next =>
    cases (given.getD .null).opened with
    | list items =>
      simp only [Attempt.map_eq_ok_iff, termsOfList_eq_ok_iff, Value.list.injEq]
      constructor
      · rintro ⟨_, ⟨own, hown, rfl⟩, hresult⟩
        exact ⟨items, own, rfl, hown, hresult⟩
      · rintro ⟨_, own, rfl, hown, hresult⟩
        exact ⟨_, ⟨own, hown, rfl⟩, hresult⟩
    | _ => simp only [reduceCtorEq, false_and, exists_false]
  next =>
    simp only [Except.ok.injEq, exists_eq_left', Option.getD_some, exists_and_left, exists_eq_left,
      describesAll_nil_iff, List.append_nil]

/-- The terms are taken from a document, or from the base. -/
theorem exists_terms?_iff {entries : List (Value × Value)} {base result : List Term} :
    (∃ given, terms? room entries = .ok given ∧ result = given.getD base) ↔ TakesTerms room entries base result := by
  rw [terms?_eq, TakesTerms]
  cases Value.lookup entries "terms" with
  | none =>
    cases Value.lookup entries "include_defaults" with
    | none => simp only [Except.ok.injEq, exists_eq_left', Option.getD_none]
    | some v => exact exists_listedTerms_iff
  | some v => exact exists_listedTerms_iff

/-- The settings that come out are those that take each field from the document or from the base. -/
theorem layer_eq_ok_iff {base : Settings} {entries : List (Value × Value)} {s : Settings} :
    layer room base entries = .ok s ↔ Layered room base entries s := by
  simp only [layer, Attempt.bind_eq_ok_iff, replace, make_eq_ok_iff]
  constructor
  · rintro ⟨identifiers, hidentifiers, strings, hstrings, comments, hcomments, sensitive, hsensitive, terms, hterms,
      time, htime, h⟩
    exact
      { terms := exists_terms?_iff.mp ⟨terms, hterms, h.1⟩
        timePerFix := exists_seconds_iff.mp ⟨time, htime, h.2.1⟩
        includeIdentifiers := exists_flag?_iff.mp ⟨identifiers, hidentifiers, h.2.2.1⟩
        includeStrings := exists_flag?_iff.mp ⟨strings, hstrings, h.2.2.2.1⟩
        includeComments := exists_flag?_iff.mp ⟨comments, hcomments, h.2.2.2.2.1⟩
        caseSensitive := exists_flag?_iff.mp ⟨sensitive, hsensitive, h.2.2.2.2.2⟩ }
  · intro h
    obtain ⟨terms, hterms, htermsEq⟩ := exists_terms?_iff.mpr h.terms
    obtain ⟨time, htime, htimeEq⟩ := exists_seconds_iff.mpr h.timePerFix
    obtain ⟨identifiers, hidentifiers, hidentifiersEq⟩ := exists_flag?_iff.mpr h.includeIdentifiers
    obtain ⟨strings, hstrings, hstringsEq⟩ := exists_flag?_iff.mpr h.includeStrings
    obtain ⟨comments, hcomments, hcommentsEq⟩ := exists_flag?_iff.mpr h.includeComments
    obtain ⟨sensitive, hsensitive, hsensitiveEq⟩ := exists_flag?_iff.mpr h.caseSensitive
    exact ⟨identifiers, hidentifiers, strings, hstrings, comments, hcomments, sensitive, hsensitive, terms, hterms,
      time, htime, htermsEq, htimeEq, hidentifiersEq, hstringsEq, hcommentsEq, hsensitiveEq⟩

/-- That settings are those of a document over a base: the base itself if the document holds nothing. -/
def LayeredValue (room : Rooms) (base : Settings) (v : Value) (s : Settings) : Prop :=
  (v.opened = .null ∧ s = base) ∨ ∃ entries, v.opened = .map entries ∧ Layered room base entries s

theorem layer_nil (room : Rooms) (base : Settings) : layer room base [] = .ok base :=
  layer_eq_ok_iff.mpr
    { terms := rfl, timePerFix := rfl, includeIdentifiers := rfl, includeStrings := rfl, includeComments := rfl
      caseSensitive := rfl }

/-- The settings that come out of a document are those that it describes over the base. -/
theorem layerValue_eq_ok_iff {base s : Settings} {v : Value} :
    layerValue room base v = .ok s ↔ LayeredValue room base v s := by
  rw [layerValue, LayeredValue]
  cases v.opened with
  | null => simp only [layer_nil, Except.ok.injEq, true_and, reduceCtorEq, false_and, exists_false, or_false, eq_comm]
  | map entries =>
    simp only [layer_eq_ok_iff, reduceCtorEq, false_and, false_or, Value.map.injEq, exists_eq_left']
  | _ => simp only [reduceCtorEq, false_and, exists_false, or_self]

/-! ## What is refused -/

/-- That a value cannot be written, in one of the rooms that are left for it or, as an integer, at all. -/
def CannotBeWritten (room : Rooms) (v : Value) (why : Unwritable) : Prop :=
  (∃ site, v.shown (room site) = .error why) ∨ ∃ n, v = .int n ∧ Text.writeInt n = .error why

/-- That a fault is a refusal, or that a value which is reached from some entries cannot be written. -/
def IsAccountedFor (room : Rooms) (entries : List (Value × Value)) (fault : SettingsError) : Prop :=
  fault.IsRefusal ∨ ∃ why v, fault = .unwritable why ∧ Value.Holds entries v ∧ CannotBeWritten room v why

section Refusals

open Attempt (FailsWith failsWith_ok failsWith_error_iff failsWith_bind_iff failsWith_map_iff failsWith_mapError_iff
  failsWith_mapM)

variable {entries : List (Value × Value)} {v : Value}

/-- A reason that shows a value is accounted for. -/
theorem isAccountedFor_showing (hv : Value.Holds entries v) (site : Site) {reason : Text → SettingsError}
    (hreason : ∀ t, (reason t).IsRefusal) :
    IsAccountedFor room entries (.showing (v.shown (room site)) reason) := by
  cases hshown : v.shown (room site) with
  | ok t => exact .inl (hreason t)
  | error why => exact .inr ⟨why, v, rfl, hv, .inl ⟨site, hshown⟩⟩

theorem holds_of_lookup {name : String} (h : Value.lookup entries name = some v) : Value.Holds entries v :=
  (Value.exists_mem_of_lookup h).elim fun _ => .entry

theorem failsWith_flag? (name : String) : FailsWith (IsAccountedFor room entries) (flag? room entries name) := by
  rw [flag?]
  split
  · exact failsWith_ok _
  · exact failsWith_ok _
  next v _ hv =>
    exact failsWith_error_iff.mpr (isAccountedFor_showing (holds_of_lookup hv) .flag fun _ => trivial)

/-- A value that is no text for want of room, or for its digits, cannot be shown either. -/
theorem shown_of_asText_error {levels : Nat} {why : Unwritable} (h : v.asText levels = .error why) :
    v.shown levels = .error why := by
  cases v <;> first | exact h | cases h

theorem failsWith_textOf (hv : Value.Holds entries v) (site : Site) :
    FailsWith (IsAccountedFor room entries) (textOf (room site) v) := by
  rw [textOf, failsWith_mapError_iff]
  exact fun why hwhy => .inr ⟨why, v, rfl, hv, .inl ⟨site, shown_of_asText_error hwhy⟩⟩

/-- Suggestions fail as they should, and those that are read are made texts as they should. -/
theorem failsWith_suggestions (room : Rooms) {given : Option Value}
    (h : ∀ v, given = some v → Value.Holds entries v) :
    FailsWith (IsAccountedFor room entries) (suggestionsOf room given) ∧
      ∀ items, suggestionsOf room given = .ok items →
        FailsWith (IsAccountedFor room entries) (items.mapM (textOf (room .suggestion))) := by
  have hitems : ∀ {v : Value} {items : List Value}, Value.Holds entries v → v.HasItems items →
      FailsWith (IsAccountedFor room entries) (items.mapM (textOf (room .suggestion))) := fun hv hlist =>
    failsWith_mapM fun _ hitem => failsWith_textOf (.item hv hlist hitem) .suggestion
  have hsingle : ∀ {w : Value}, w.text?.isSome → FailsWith (IsAccountedFor room entries)
      ([w].mapM (textOf (room .suggestion))) := by
    intro w hw
    obtain ⟨t, ht⟩ := Option.isSome_iff_exists.mp hw
    have hread : textOf (room .suggestion) w = .ok t := textOf_eq_ok_iff.mpr ((standsFor_of_text ht).mpr rfl)
    rw [List.mapM_cons, hread]
    exact failsWith_ok _
  cases given with
  | none => exact ⟨failsWith_ok _, by rintro _ ⟨⟩; exact failsWith_ok _⟩
  | some v =>
    have hv := h v rfl
    rw [suggestionsOf, Option.getD_some]
    cases hopened : v.opened with
    | null => exact ⟨failsWith_ok _, by rintro _ ⟨⟩; exact failsWith_ok _⟩
    | list items => exact ⟨failsWith_ok _, by rintro _ ⟨⟩; exact hitems hv (.inl hopened)⟩
    | tuple items => exact ⟨failsWith_ok _, by rintro _ ⟨⟩; exact hitems hv (.inr hopened)⟩
    | text t => exact ⟨failsWith_ok _, by rintro _ ⟨⟩; exact hsingle rfl⟩
    | halves codes => exact ⟨failsWith_ok _, by rintro _ ⟨⟩; exact hsingle rfl⟩
    | _ => exact ⟨failsWith_error_iff.mpr (isAccountedFor_showing hv .entry fun _ => trivial), by rintro _ ⟨⟩⟩

theorem failsWith_choice {α : Type} {ofValue : Value → Except UnknownChoice α} {base : Value}
    (hbase : ∃ c, ofValue base = .ok c)
    (hfaults : ∀ v u, ofValue v = .error u → u.shown = v.shown (room .choice)) {given : Option Value}
    (h : ∀ v, given = some v → Value.Holds entries v) :
    FailsWith (IsAccountedFor room entries) ((ofValue (given.getD base)).mapError .ofUnknownChoice) := by
  rw [failsWith_mapError_iff]
  intro u hu
  cases given with
  | none =>
    obtain ⟨c, hc⟩ := hbase
    rw [Option.getD_none, hc] at hu
    cases hu
  | some v =>
    have hshown := hfaults v u hu
    rw [SettingsError.ofUnknownChoice]
    split
    next hdeep => exact .inr ⟨.tooDeep, v, rfl, h v rfl, .inl ⟨.choice, hshown ▸ hdeep⟩⟩
    next => exact .inl trivial

theorem Category.shown_of_ofValue {v : Value} {u : UnknownChoice} (h : Category.ofValue room v = .error u) :
    u.shown = v.shown (room .choice) := by
  unfold Category.ofValue at h
  split at h
  next t =>
    cases hread : Category.ofText? t with
    | none =>
      rw [hread] at h
      cases h
      rfl
    | some c =>
      rw [hread] at h
      cases h
  next =>
    cases h
    rfl

theorem Severity.shown_of_ofValue {v : Value} {u : UnknownChoice} (h : Severity.ofValue room v = .error u) :
    u.shown = v.shown (room .choice) := by
  unfold Severity.ofValue at h
  split at h
  next t =>
    cases hread : Severity.ofText? t with
    | none =>
      rw [hread] at h
      cases h
      rfl
    | some c =>
      rw [hread] at h
      cases h
  next =>
    cases h
    rfl

theorem failsWith_make (id text : Text) (category : Category) (severity : Severity) (suggestions : List Text) :
    FailsWith (IsAccountedFor room entries) (Term.make id text category severity suggestions) := by
  rw [Term.make]
  split
  · exact failsWith_ok _
  · exact failsWith_error_iff.mpr (.inl trivial)

theorem failsWith_termOfEntries {place : Nat} {mapping : Value} {entry : List (Value × Value)}
    (hmapping : Value.Holds entries mapping)
    (hentry : ∀ {name : String} {v}, Value.lookup entry name = some v → Value.Holds entries v) :
    FailsWith (IsAccountedFor room entries) (termOfEntries room place mapping entry) := by
  rw [termOfEntries, failsWith_bind_iff]
  constructor
  · cases Value.lookup entry "term" with
    | none => exact failsWith_error_iff.mpr (isAccountedFor_showing hmapping .entry fun _ => trivial)
    | some given => exact failsWith_ok _
  intro given hgiven
  cases given.text? with
  | none =>
    refine failsWith_error_iff.mpr (isAccountedFor_showing ?_ .entry fun _ => trivial)
    exact hentry (Attempt.elim_eq_ok_iff.mp hgiven)
  | some text =>
    obtain ⟨hsuggestions, htexts⟩ := failsWith_suggestions room
      fun v (hv : Value.lookup entry "suggestions" = some v) => hentry hv
    refine failsWith_bind_iff.mpr ⟨hsuggestions, fun suggestions hread => failsWith_bind_iff.mpr ⟨?_, fun _ _ =>
      failsWith_bind_iff.mpr ⟨?_, fun _ _ => failsWith_bind_iff.mpr ⟨?_, fun _ _ =>
        failsWith_bind_iff.mpr ⟨htexts _ hread, fun _ _ => failsWith_make _ _ _ _ _⟩⟩⟩⟩⟩
    · exact failsWith_choice ⟨.other, Category.ofValue_eq_ok_iff.mpr rfl⟩ (fun _ _ => Category.shown_of_ofValue)
        fun _ hv => hentry hv
    · exact failsWith_choice ⟨.medium, Severity.ofValue_eq_ok_iff.mpr rfl⟩ (fun _ _ => Severity.shown_of_ofValue)
        fun _ hv => hentry hv
    · cases hid : Value.lookup entry "id" with
      | none => exact failsWith_ok _
      | some v => exact failsWith_textOf (hentry hid) .entry

theorem failsWith_termOfText {place : Nat} {mapping w : Value} (h : w.text?.isSome) :
    FailsWith (IsAccountedFor room entries) (termOfEntries room place mapping [(.text "term".toList, w)]) := by
  obtain ⟨text, htext⟩ := Option.isSome_iff_exists.mp h
  have hterm : Value.lookup [(.text "term".toList, w)] "term" = some w := rfl
  have hmake : termOfEntries room place mapping [(.text "term".toList, w)] =
      Term.make (generatedId place) (Text.trim text) .other .medium [] := by
    rw [termOfEntries, hterm]
    simp only [Option.elim_some, bind, Except.bind, htext]
    rfl
  rw [hmake]
  exact failsWith_make _ _ _ _ _

theorem failsWith_termOfValue {place : Nat} (hv : Value.Holds entries v) :
    FailsWith (IsAccountedFor room entries) (termOfValue room place v) := by
  rw [termOfValue]
  cases hopened : v.opened with
  | map entry =>
    refine failsWith_termOfEntries hv fun hlookup => ?_
    obtain ⟨k, hk⟩ := Value.exists_mem_of_lookup hlookup
    exact .value hv hopened hk
  | text t => exact failsWith_termOfText rfl
  | halves codes => exact failsWith_termOfText rfl
  | _ => exact failsWith_error_iff.mpr (isAccountedFor_showing hv .entry fun _ => trivial)

theorem failsWith_termsOfList {before : Nat} {items : List Value} (h : ∀ v ∈ items, Value.Holds entries v) :
    FailsWith (IsAccountedFor room entries) (termsOfList room before items) := by
  induction items generalizing before with
  | nil => exact failsWith_ok _
  | cons v rest ih =>
    obtain ⟨hv, hrest⟩ := List.forall_mem_cons.mp h
    rw [termsOfList]
    refine failsWith_bind_iff.mpr ⟨failsWith_termOfValue hv, fun _ _ => failsWith_bind_iff.mpr ⟨ih hrest, ?_⟩⟩
    exact fun _ _ => failsWith_ok _

theorem failsWith_listedTerms (room : Rooms) (kept : List Term) {given : Option Value}
    (h : ∀ v, given = some v → Value.Holds entries v) :
    FailsWith (IsAccountedFor room entries) (listedTerms room kept given) := by
  rw [listedTerms]
  split
  · cases given with
    | none => exact failsWith_error_iff.mpr (.inl trivial)
    | some v =>
      rw [Option.getD_some]
      cases hopened : v.opened with
      | list items =>
        exact failsWith_map_iff.mpr (failsWith_termsOfList fun _ hitem => .item (h v rfl) (.inl hopened) hitem)
      | _ => exact failsWith_error_iff.mpr (.inl trivial)
  · exact failsWith_ok _

theorem failsWith_terms? : FailsWith (IsAccountedFor room entries) (terms? room entries) := by
  have hlisted := fun kept => failsWith_listedTerms room kept
    fun v (hv : Value.lookup entries "terms" = some v) => holds_of_lookup hv
  rw [terms?_eq]
  cases hterms : Value.lookup entries "terms" with
  | none =>
    rw [hterms] at hlisted
    cases Value.lookup entries "include_defaults" with
    | none => exact failsWith_ok _
    | some v => exact hlisted _
  | some v =>
    rw [hterms] at hlisted
    exact hlisted _

/-- A copy of settings fails with a refusal, or for seconds that cannot be written. -/
theorem failsWith_replace {allowed : SettingsError → Prop} (base : Settings) {c : Change}
    (hrefusal : ∀ fault : SettingsError, fault.IsRefusal → allowed fault)
    (hseconds : ∀ n why, c.timePerFix = some n → Text.writeInt n = .error why → allowed (.unwritable why)) :
    FailsWith allowed (base.replace c) := by
  rw [replace, make]
  split
  · split
    · exact failsWith_ok _
    · exact failsWith_error_iff.mpr (hrefusal _ trivial)
  next hnone =>
    cases htime : c.timePerFix with
    | none =>
      rw [htime] at hnone
      exact absurd base.positive hnone
    | some n =>
      rw [Option.getD_some, failsWith_error_iff]
      cases hwritten : Text.writeInt n with
      | ok t => exact hrefusal _ trivial
      | error why => exact hseconds n why htime hwritten

theorem eq_int_of_seconds {given : Option Value} {n : Int} (h : given.mapM (secondsOfValue room) = .ok (some n)) :
    given = some (.int n) := by
  cases given with
  | none => cases h
  | some v =>
    cases v with
    | int m =>
      cases h
      rfl
    | _ => cases h

theorem failsWith_seconds {given : Option Value} (h : ∀ v, given = some v → Value.Holds entries v) :
    FailsWith (IsAccountedFor room entries) (given.mapM (secondsOfValue room)) := by
  cases given with
  | none => exact failsWith_ok _
  | some v =>
    rw [Option.mapM_some]
    refine failsWith_map_iff.mpr ?_
    cases v with
    | int n => exact failsWith_ok _
    | _ => exact failsWith_error_iff.mpr (isAccountedFor_showing (h _ rfl) .seconds fun _ => trivial)

/-- A document ends in a refusal, unless a value that it holds cannot be written. -/
theorem failsWith_layer (base : Settings) : FailsWith (IsAccountedFor room entries) (layer room base entries) := by
  rw [layer]
  refine failsWith_bind_iff.mpr ⟨failsWith_flag? _, fun _ _ => ?_⟩
  refine failsWith_bind_iff.mpr ⟨failsWith_flag? _, fun _ _ => ?_⟩
  refine failsWith_bind_iff.mpr ⟨failsWith_flag? _, fun _ _ => ?_⟩
  refine failsWith_bind_iff.mpr ⟨failsWith_flag? _, fun _ _ => ?_⟩
  refine failsWith_bind_iff.mpr ⟨failsWith_terms?, fun _ _ => ?_⟩
  refine failsWith_bind_iff.mpr ⟨failsWith_seconds fun _ => holds_of_lookup, fun time htime => ?_⟩
  refine failsWith_replace base (fun _ => .inl) fun n why hn hwritten => ?_
  refine .inr ⟨why, .int n, rfl, ?_, .inr ⟨n, rfl, hwritten⟩⟩
  rw [show time = some n from hn] at htime
  exact holds_of_lookup (eq_int_of_seconds htime)

end Refusals

/-- The settings that come out of a document over a base are exactly those that take each field from the document where
it is given there, and from the base where it is not: flags and seconds as they are given, and behind the built-in terms
that stay one term for each item of the list, with its own place in the ids that are generated. A fix takes some time in
them, the ids of their terms differ, and no term is blank. Every other document is refused, unless a value that it holds
cannot be written: an integer of too many digits, or a value that is nested more deeply than there is room for it. -/
theorem layer_takes (room : Rooms) (base : Settings) (entries : List (Value × Value)) :
    (∀ s, layer room base entries = .ok s ↔ Layered room base entries s) ∧
      (∀ s, layer room base entries = .ok s →
        0 < s.timePerFix ∧ (s.terms.map (·.id)).Nodup ∧ ∀ t ∈ s.terms, Text.isAllBlank t.text = false) ∧
      (∀ fault, layer room base entries = .error fault → IsAccountedFor room entries fault) :=
  ⟨fun _ => layer_eq_ok_iff, fun s _ => ⟨s.positive, s.distinct, fun t _ => t.notBlank⟩, failsWith_layer base⟩

/-- A document with seconds, without the built-in terms, and with a text and a mapping for terms. -/
def chairmanDocument : List (Value × Value) :=
  [(.text "time_per_fix".toList, .int 45), (.text "include_defaults".toList, .bool false),
    (.text "terms".toList, .list
      [.text " chairman ".toList,
        .map [(.text "term".toList, .text "guys".toList), (.text "id".toList, .int 7),
          (.text "suggestions".toList, .text "folks".toList)]])]

/-- As many levels everywhere as a shallow run leaves. -/
def shallowRooms : Rooms := fun _ => 975

/-- The settings of a document over the built-in ones have its seconds and its terms. -/
theorem layer_takes_chairman :
    ∃ s, layer shallowRooms builtin chairmanDocument = .ok s ∧ Layered shallowRooms builtin chairmanDocument s ∧
      s.terms.map (·.id) = ["custom-1".toList, "7".toList] ∧ 0 < s.timePerFix ∧
      ∀ fault, layer shallowRooms builtin chairmanDocument = .error fault →
        IsAccountedFor shallowRooms chairmanDocument fault := by
  obtain ⟨hlayered, hsound, hfaults⟩ := layer_takes shallowRooms builtin chairmanDocument
  have hids : (layer shallowRooms builtin chairmanDocument).toOption.map (fun s => s.terms.map (·.id)) =
      some ["custom-1".toList, "7".toList] := by
    decide +kernel
  obtain ⟨s, hs, hterms⟩ := Attempt.exists_eq_ok_of_toOption hids
  exact ⟨s, hs, (hlayered s).mp hs, hterms, (hsound s hs).1, hfaults⟩

/-- A refusal that shows a flag ends as the value does that cannot be written. -/
theorem layer_of_unwritable_flag {v : Value} {why : Unwritable} (hnot : ∀ b, v ≠ .bool b)
    (hv : v.shown (room .flag) = .error why) (base : Settings) :
    layer room base [(.text "include_strings".toList, v)] = .error (.unwritable why) := by
  have hlookup : Value.lookup [(.text "include_strings".toList, v)] "include_strings" = some v := rfl
  have hflag : flag? room [(.text "include_strings".toList, v)] "include_strings" = .error (.unwritable why) := by
    rw [flag?, hlookup]
    cases v with
    | bool b => exact absurd rfl (hnot b)
    | _ => simp only [hv, SettingsError.showing]
  have hbefore : flag? room [(.text "include_strings".toList, v)] "include_identifiers" = .ok none := rfl
  rw [layer, hbefore, hflag]
  rfl

/-- A text that says no counts as a yes for the built-in terms, and a value in the place of a flag may have too many
digits, or be nested too deeply, for the refusal to show it. -/
theorem layer_of_loose_values :
    (layer shallowRooms empty [(.text "include_defaults".toList, .text "no".toList)]).toOption.map (·.terms) =
        some builtinTerms ∧
      layer shallowRooms builtin [(.text "include_strings".toList, .int (10 ^ 4300))] =
        .error (.unwritable .tooManyDigits) ∧
      layer shallowRooms builtin [(.text "include_strings".toList, Value.nested 1500)] =
        .error (.unwritable .tooDeep) := by
  refine ⟨by decide +kernel, layer_of_unwritable_flag ?_ ?_ builtin, layer_of_unwritable_flag ?_ ?_ builtin⟩
  · rintro b ⟨⟩
  · have hlong : Text.isWritable (10 ^ 4300) = false := by
      decide +kernel
    have hshown : ∀ n, (Value.int n).shown (shallowRooms .flag) = Text.writeInt n := fun _ => rfl
    rw [hshown, Text.writeInt, hlong]
    rfl
  · rintro b ⟨⟩
  · exact Value.shown_nested_of_le (by decide)

end Settings

end Wording
