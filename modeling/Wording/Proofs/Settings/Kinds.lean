import Wording.Proofs.Settings.Layer

/-! # Values of the wrong kind in a document

A flag, the seconds for a fix and a list of terms are checked, and a document with a wrong one of them makes no settings
(`GivesCheckedWrongKind.exists_error`), because settings that come out have values of the right kind for all of them.
The word on the built-in terms, and terms that count as a no, are not checked: a document with these is read as the one
that gives the truth value, or nothing, in their place (`layer_settled`). `settled` puts these two values in front of
the others, which stand under the same names, so every other value is looked up as before.
-/

set_option autoImplicit false

namespace Wording.Settings

variable {room : Rooms} {base : Settings} {entries : List (Value × Value)}

/-! ## Right and wrong kinds -/

def flagNames : List String := ["include_identifiers", "include_strings", "include_comments", "case_sensitive"]

/-- That a document gives a value of the wrong kind: terms that are neither nothing nor a list, a word on the built-in
terms or a flag that is no truth value, or seconds that are no positive integer. -/
inductive GivesWrongKind (entries : List (Value × Value)) : Prop
  | terms {v : Value} (given : Value.lookup entries "terms" = some v) (notNull : v.opened ≠ .null)
      (notList : ∀ items, v.opened ≠ .list items)
  | defaults {v : Value} (given : Value.lookup entries "include_defaults" = some v) (notBool : ∀ b, v ≠ .bool b)
  | flag {name : String} {v : Value} (isFlag : name ∈ flagNames) (given : Value.lookup entries name = some v)
      (notBool : ∀ b, v ≠ .bool b)
  | seconds {v : Value} (given : Value.lookup entries "time_per_fix" = some v) (notPositive : ∀ n, v = .int n → n ≤ 0)

/-- That a document gives a value of the wrong kind where the kind is checked: of the terms only those that count as a
yes, and not the word on the built-in ones. -/
inductive GivesCheckedWrongKind (entries : List (Value × Value)) : Prop
  | terms {v : Value} (given : Value.lookup entries "terms" = some v) (counts : v.isTruthy = true)
      (notList : ∀ items, v.opened ≠ .list items)
  | flag {name : String} {v : Value} (isFlag : name ∈ flagNames) (given : Value.lookup entries name = some v)
      (notBool : ∀ b, v ≠ .bool b)
  | seconds {v : Value} (given : Value.lookup entries "time_per_fix" = some v) (notPositive : ∀ n, v = .int n → n ≤ 0)

/-- That each flag and the seconds that a document gives are of the right kind. -/
structure GivesRightNumbers (entries : List (Value × Value)) : Prop where
  flag : ∀ name ∈ flagNames, ∀ v, Value.lookup entries name = some v → ∃ b, v = .bool b
  seconds : ∀ v, Value.lookup entries "time_per_fix" = some v → ∃ n, v = .int n ∧ 0 < n

theorem GivesRightNumbers.exists_flag? (h : GivesRightNumbers entries) {name : String} (hname : name ∈ flagNames) :
    ∃ given, flag? room entries name = .ok given := by
  rw [flag?]
  cases hgiven : Value.lookup entries name with
  | none => exact ⟨none, rfl⟩
  | some v =>
    obtain ⟨b, rfl⟩ := h.flag name hname v hgiven
    exact ⟨some b, rfl⟩

/-- Seconds of the right kind are read, and a fix takes some time with them. -/
theorem GivesRightNumbers.exists_seconds (h : GivesRightNumbers entries) (base : Settings) :
    ∃ seconds, (Value.lookup entries "time_per_fix").mapM (secondsOfValue room) = .ok seconds ∧
      0 < seconds.getD base.timePerFix := by
  cases hgiven : Value.lookup entries "time_per_fix" with
  | none => exact ⟨none, rfl, base.positive⟩
  | some v =>
    obtain ⟨n, rfl, hpositive⟩ := h.seconds v hgiven
    exact ⟨some n, rfl, hpositive⟩

/-- With flags and seconds of the right kind, only the terms decide whether there are settings. -/
theorem GivesRightNumbers.layer_eq (h : GivesRightNumbers entries) (room : Rooms) (base : Settings) :
    ∃ time identifiers strings comments sensitive, 0 < time ∧
      layer room base entries = terms? room entries >>= fun given =>
        make (given.getD base.terms) time identifiers strings comments sensitive := by
  obtain ⟨identifiers, hidentifiers⟩ := h.exists_flag? (show "include_identifiers" ∈ flagNames by decide)
  obtain ⟨strings, hstrings⟩ := h.exists_flag? (show "include_strings" ∈ flagNames by decide)
  obtain ⟨comments, hcomments⟩ := h.exists_flag? (show "include_comments" ∈ flagNames by decide)
  obtain ⟨sensitive, hsensitive⟩ := h.exists_flag? (show "case_sensitive" ∈ flagNames by decide)
  obtain ⟨seconds, hseconds, hpositive⟩ := h.exists_seconds base
  refine ⟨seconds.getD base.timePerFix, identifiers.getD base.includeIdentifiers,
    strings.getD base.includeStrings, comments.getD base.includeComments, sensitive.getD base.caseSensitive,
    hpositive, ?_⟩
  rw [layer, hidentifiers, hstrings, hcomments, hsensitive, hseconds]
  rfl

/-! ## Checked values -/

/-- Settings that come out of a document have flags and seconds of the right kind, and their terms from a list. -/
theorem not_givesCheckedWrongKind {s : Settings} (h : Layered room base entries s) :
    ¬ GivesCheckedWrongKind entries := by
  rintro (⟨given, counts, notList⟩ | ⟨isFlag, given, notBool⟩ | ⟨given, notPositive⟩)
  · have hterms := h.terms
    rw [TakesTerms, given] at hterms
    obtain ⟨items, own, hlists, -⟩ := hterms
    rw [ListsItems, Option.getD_some, if_pos counts] at hlists
    exact notList items hlists
  · simp only [flagNames, List.mem_cons, List.not_mem_nil, or_false] at isFlag
    have hidentifiers := h.includeIdentifiers
    have hstrings := h.includeStrings
    have hcomments := h.includeComments
    have hsensitive := h.caseSensitive
    obtain rfl | rfl | rfl | rfl := isFlag
    · rw [given] at hidentifiers
      exact notBool _ hidentifiers
    · rw [given] at hstrings
      exact notBool _ hstrings
    · rw [given] at hcomments
      exact notBool _ hcomments
    · rw [given] at hsensitive
      exact notBool _ hsensitive
  · have hseconds := h.timePerFix
    rw [given] at hseconds
    exact absurd s.positive (Int.not_lt.mpr (notPositive _ hseconds))

/-- A document with a checked value of the wrong kind is refused. -/
theorem GivesCheckedWrongKind.exists_error (h : GivesCheckedWrongKind entries) (room : Rooms) (base : Settings) :
    ∃ fault, layer room base entries = .error fault := by
  cases hlayer : layer room base entries with
  | error fault => exact ⟨fault, rfl⟩
  | ok s => exact absurd h (not_givesCheckedWrongKind (layer_eq_ok_iff.mp hlayer))

/-! ## Unchecked values -/

/-- The entries of a document with what is given under a name put before them. -/
def giving (name : String) (given : Option Value) (entries : List (Value × Value)) : List (Value × Value) :=
  match given with
  | none => entries
  | some v => (.text name.toList, v) :: entries

theorem lookup_giving_self {name : String} {given : Option Value}
    (h : given = none → Value.lookup entries name = none) : Value.lookup (giving name given entries) name = given := by
  cases given with
  | none => exact h rfl
  | some v => rw [giving, Value.lookup_cons_text, if_pos rfl]

theorem lookup_giving_of_ne {name other : String} (h : name ≠ other) (given : Option Value) :
    Value.lookup (giving name given entries) other = Value.lookup entries other := by
  cases given with
  | none => rfl
  | some v => rw [giving, Value.lookup_cons_text, if_neg h]

/-- The document that gives the truth value of the word on the built-in terms in its place, and nothing in the place of
terms that count as a no. -/
def settled (entries : List (Value × Value)) : List (Value × Value) :=
  giving "include_defaults" ((Value.lookup entries "include_defaults").map fun v => .bool v.isTruthy)
    (giving "terms" ((Value.lookup entries "terms").map fun v => if v.isTruthy then v else .null) entries)

/-- A settled document gives the truth value of the word on the built-in terms. -/
theorem lookup_settled_defaults (entries : List (Value × Value)) :
    Value.lookup (settled entries) "include_defaults" =
      (Value.lookup entries "include_defaults").map fun v => .bool v.isTruthy := by
  refine lookup_giving_self fun h => ?_
  rw [lookup_giving_of_ne (by decide)]
  exact Option.map_eq_none_iff.mp h

/-- A settled document gives the terms that count as a yes, and else nothing. -/
theorem lookup_settled_terms (entries : List (Value × Value)) :
    Value.lookup (settled entries) "terms" =
      (Value.lookup entries "terms").map fun v => if v.isTruthy then v else .null := by
  rw [settled, lookup_giving_of_ne (by decide)]
  exact lookup_giving_self Option.map_eq_none_iff.mp

theorem lookup_settled {name : String} (hdefaults : "include_defaults" ≠ name) (hterms : "terms" ≠ name) :
    Value.lookup (settled entries) name = Value.lookup entries name := by
  rw [settled, lookup_giving_of_ne hdefaults, lookup_giving_of_ne hterms]

theorem flag?_settled {name : String} (hdefaults : "include_defaults" ≠ name) (hterms : "terms" ≠ name) :
    flag? room (settled entries) name = flag? room entries name := by
  rw [flag?, flag?, lookup_settled hdefaults hterms]

/-- Of the word on the built-in terms only its truth value counts. -/
theorem keptTerms_truthValue (given : Option Value) :
    keptTerms (given.map fun v => .bool v.isTruthy) = keptTerms given := by
  cases given <;> rfl

theorem listedTerms_settled (kept : List Term) (given : Option Value) :
    listedTerms room kept (given.map fun v => if v.isTruthy then v else .null) = listedTerms room kept given := by
  cases given with
  | none => rfl
  | some v =>
    rw [Option.map_some]
    split
    next => rfl
    next hno =>
      rw [listedTerms, listedTerms, Option.getD_some, Option.getD_some, if_neg hno]
      rfl

theorem terms?_settled (entries : List (Value × Value)) : terms? room (settled entries) = terms? room entries := by
  rw [terms?_eq, terms?_eq, lookup_settled_defaults, lookup_settled_terms]
  cases Value.lookup entries "terms" with
  | none =>
    cases Value.lookup entries "include_defaults" with
    | none => rfl
    | some v => exact congrArg (listedTerms room · none) (keptTerms_truthValue (some v))
  | some w =>
    show listedTerms room (keptTerms ((Value.lookup entries "include_defaults").map fun v => .bool v.isTruthy))
      ((some w).map fun v => if v.isTruthy then v else .null) =
      listedTerms room (keptTerms (Value.lookup entries "include_defaults")) (some w)
    rw [keptTerms_truthValue, listedTerms_settled]

/-- A document is read as the settled one. -/
theorem layer_settled (room : Rooms) (base : Settings) (entries : List (Value × Value)) :
    layer room base (settled entries) = layer room base entries := by
  rw [layer, layer, flag?_settled (by decide) (by decide), flag?_settled (by decide) (by decide),
    flag?_settled (by decide) (by decide), flag?_settled (by decide) (by decide), terms?_settled,
    lookup_settled (by decide) (by decide)]

theorem opened_ne_null {v : Value} (h : v.isTruthy = true) : v.opened ≠ .null := by
  cases v with
  | null => cases h
  | labelled label inner =>
    rw [Value.opened]
    cases inner with
    | null => cases h
    | labelled =>
      rw [Value.replaceLabel]
      split <;> rintro ⟨⟩
    | same =>
      rw [Value.replaceLabel]
      split <;> rintro ⟨⟩
    | list | tuple | set | map =>
      rw [Value.replaceLabel]
      rintro ⟨⟩
    | _ =>
      rw [Value.replaceLabel]
      · rintro ⟨⟩
      all_goals nofun
  | _ => rintro ⟨⟩

theorem ne_of_mem_flagNames {name : String} (h : name ∈ flagNames) : "include_defaults" ≠ name ∧ "terms" ≠ name := by
  simp only [flagNames, List.mem_cons, List.not_mem_nil, or_false] at h
  obtain rfl | rfl | rfl | rfl := h <;> exact ⟨by decide, by decide⟩

/-- A settled document gives a value of the wrong kind where the document gives a checked one. -/
theorem givesWrongKind_settled_iff : GivesWrongKind (settled entries) ↔ GivesCheckedWrongKind entries := by
  constructor
  · rintro (⟨given, notNull, notList⟩ | ⟨given, notBool⟩ | ⟨isFlag, given, notBool⟩ | ⟨given, notPositive⟩)
    · rw [lookup_settled_terms] at given
      obtain ⟨v, hv, rfl⟩ := Option.map_eq_some_iff.mp given
      by_cases counts : v.isTruthy = true
      · rw [if_pos counts] at notList
        exact .terms hv counts notList
      · rw [if_neg counts] at notNull
        exact absurd rfl notNull
    · rw [lookup_settled_defaults] at given
      obtain ⟨v, -, rfl⟩ := Option.map_eq_some_iff.mp given
      exact absurd rfl (notBool _)
    · obtain ⟨hdefaults, hterms⟩ := ne_of_mem_flagNames isFlag
      rw [lookup_settled hdefaults hterms] at given
      exact .flag isFlag given notBool
    · rw [lookup_settled (by decide) (by decide)] at given
      exact .seconds given notPositive
  · rintro (⟨given, counts, notList⟩ | ⟨isFlag, given, notBool⟩ | ⟨given, notPositive⟩)
    · refine .terms ?_ (opened_ne_null counts) notList
      rw [lookup_settled_terms, given, Option.map_some, if_pos counts]
    · obtain ⟨hdefaults, hterms⟩ := ne_of_mem_flagNames isFlag
      exact .flag isFlag ((lookup_settled hdefaults hterms).trans given) notBool
    · exact .seconds ((lookup_settled (by decide) (by decide)).trans given) notPositive

/-! ## Refusals -/

/-- A document with a flag, seconds or a list of terms of the wrong kind makes no settings over any base: it is refused,
unless a value that it holds cannot be written. The word on the built-in terms and terms that count as a no are never
refused for their kind: the document is read as the settled one, which gives a value of the wrong kind only where a
checked one is given. -/
theorem refusals_of_wrongKinds (room : Rooms) (base : Settings) (entries : List (Value × Value)) :
    (GivesCheckedWrongKind entries →
      ∃ fault, layer room base entries = .error fault ∧ IsAccountedFor room entries fault) ∧
      layer room base entries = layer room base (settled entries) ∧
      (GivesWrongKind (settled entries) ↔ GivesCheckedWrongKind entries) := by
  refine ⟨fun h => ?_, (layer_settled room base entries).symm, givesWrongKind_settled_iff⟩
  obtain ⟨fault, hfault⟩ := h.exists_error room base
  exact ⟨fault, hfault, failsWith_layer base fault hfault⟩

/-- A document with a word in the place of a flag. -/
def hesitantDocument : List (Value × Value) :=
  [(.text "include_defaults".toList, .int 0), (.text "case_sensitive".toList, .text "maybe".toList)]

theorem not_cannotBeWritten_hesitant {v : Value} {why : Unwritable} (hv : Value.Holds hesitantDocument v) :
    ¬ CannotBeWritten shallowRooms v why := by
  have hown : v = .int 0 ∨ v = .text "maybe".toList := by
    induction hv with
    | @entry k v hentry =>
      simp only [hesitantDocument, List.mem_cons, Prod.mk.injEq, List.not_mem_nil, or_false] at hentry
      exact hentry.imp And.right And.right
    | item _ hitems _ ih => obtain rfl | rfl := ih <;> obtain ⟨⟨⟩⟩ | ⟨⟨⟩⟩ := hitems
    | value _ hinner _ ih => obtain rfl | rfl := ih <;> cases hinner
  obtain rfl | rfl := hown
  · have hzero : Text.writeInt 0 = .ok ['0'] := if_pos (by decide +kernel)
    have hshown : ∀ site, (Value.int 0).shown (shallowRooms site) = Text.writeInt 0 := fun _ => rfl
    rintro (⟨site, hsite⟩ | ⟨n, hn, hwritten⟩)
    · rw [hshown, hzero] at hsite
      cases hsite
    · rw [← Value.int.inj hn, hzero] at hwritten
      cases hwritten
  · rintro (⟨site, ⟨⟩⟩ | ⟨n, ⟨⟩, -⟩)

/-- A word is no flag, though zero will do for the word on the built-in terms. -/
theorem refusals_of_wrongKinds_hesitant :
    GivesCheckedWrongKind hesitantDocument ∧
      (∃ fault, layer shallowRooms builtin hesitantDocument = .error fault ∧ fault.IsRefusal) ∧
      layer shallowRooms builtin hesitantDocument = layer shallowRooms builtin (settled hesitantDocument) ∧
      GivesWrongKind (settled hesitantDocument) := by
  obtain ⟨hrefused, hsettled, hkinds⟩ := refusals_of_wrongKinds shallowRooms builtin hesitantDocument
  have hgiven : Value.lookup hesitantDocument "case_sensitive" = some (.text "maybe".toList) := rfl
  have hwrong : GivesCheckedWrongKind hesitantDocument := .flag (by decide) hgiven nofun
  obtain ⟨fault, hfault, hrefusal | ⟨why, v, -, hv, hunfit⟩⟩ := hrefused hwrong
  · exact ⟨hwrong, ⟨fault, hfault, hrefusal⟩, hsettled, hkinds.mpr hwrong⟩
  · exact absurd hunfit (not_cannotBeWritten_hesitant hv)

/-- Terms that are a truth value, and a word on the built-in terms that is a text, are of the wrong kind, and documents
with them are not refused. -/
theorem layer_of_unchecked_kinds :
    GivesWrongKind [(.text "terms".toList, .bool false)] ∧
      (layer shallowRooms builtin [(.text "terms".toList, .bool false)]).toOption = some builtin ∧
      GivesWrongKind [(.text "include_defaults".toList, .text "no".toList)] ∧
      (layer shallowRooms builtin [(.text "include_defaults".toList, .text "no".toList)]).toOption = some builtin := by
  refine ⟨.terms (v := .bool false) rfl nofun nofun, by decide +kernel, ?_, by decide +kernel⟩
  exact .defaults (v := .text "no".toList) rfl nofun

end Wording.Settings
