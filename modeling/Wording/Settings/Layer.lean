import Wording.Settings.Builtin

/-!
Settings from the entries of a document, laid over other settings. What the document does not mention
stays. A list of terms replaces the terms below it and stands behind the built-in ones, unless the
document leaves those out.
-/

set_option autoImplicit false

namespace Wording.Settings

/-- The flag that a document gives under a name, if any. -/
def flag? (room : Rooms) (entries : List (Value × Value)) (name : String) : Except SettingsError (Option Bool) :=
  match Value.lookup entries name with
  | none => .ok none
  | some (.bool b) => .ok (some b)
  | some v => .error (.showing (v.shown (room .flag)) (.flagNotBoolean name))

/-- The suggestions that an entry gives: none, one text, or the items of a list or of a tuple. -/
def suggestionsOf (room : Rooms) (given : Option Value) : Except SettingsError (List Value) :=
  let v := given.getD .null
  match v.opened with
  | .null => .ok []
  | .list items => .ok items
  | .tuple items => .ok items
  | w => if w.text?.isSome then .ok [w] else .error (.showing (v.shown (room .entry)) .suggestionsNotList)

/-- A value as a text in a room of so many levels, unless it cannot be written. -/
def textOf (levels : Nat) (v : Value) : Except SettingsError Text := (v.asText levels).mapError .unwritable

/-- The id of an entry that gives none: its place in the whole list of terms. -/
def generatedId (place : Nat) : Text := "custom-".toList ++ Nat.toDigits 10 place

/-- The term that the entries of a mapping describe, at a place in the whole list of terms. -/
def termOfEntries (room : Rooms) (place : Nat) (mapping : Value) (entry : List (Value × Value)) :
    Except SettingsError Term := do
  let given ← (Value.lookup entry "term").elim (.error (.showing (mapping.shown (room .entry)) .missingTerm)) .ok
  match given.text? with
  | none => .error (.showing (given.shown (room .entry)) .termNotText)
  | some text =>
    let suggestions ← suggestionsOf room (Value.lookup entry "suggestions")
    let category ←
      (Category.ofValue room ((Value.lookup entry "category").getD (.text Category.other.text))).mapError
        .ofUnknownChoice
    let severity ←
      (Severity.ofValue room ((Value.lookup entry "severity").getD (.text Severity.medium.text))).mapError
        .ofUnknownChoice
    let id ← ((Value.lookup entry "id").map (textOf (room .entry))).getD (.ok (generatedId place))
    Term.make id (Text.trim text) category severity (← suggestions.mapM (textOf (room .suggestion)))

/-- The term that an entry of the list of terms describes: a text stands for a mapping with it alone. -/
def termOfValue (room : Rooms) (place : Nat) (v : Value) : Except SettingsError Term :=
  match v.opened with
  | .map entry => termOfEntries room place v entry
  | w =>
    if w.text?.isSome then
      let entry := [(.text "term".toList, w)]
      termOfEntries room place (.map entry) entry
    else .error (.showing (v.shown (room .entry)) .badEntry)

/-- The terms that a list describes, behind `place` terms. -/
def termsOfList (room : Rooms) (place : Nat) : List Value → Except SettingsError (List Term)
  | [] => .ok []
  | v :: rest => do
    let t ← termOfValue room (place + 1) v
    pure (t :: (← termsOfList room (place + 1) rest))

/-- The terms that a document gives, if it mentions terms at all. -/
def terms? (room : Rooms) (entries : List (Value × Value)) : Except SettingsError (Option (List Term)) :=
  match Value.lookup entries "terms", Value.lookup entries "include_defaults" with
  | none, none => .ok none
  | terms, defaults =>
    let kept := if (defaults.getD (.bool true)).isTruthy then builtinTerms else []
    let listed := terms.getD .null
    if listed.isTruthy then
      match listed.opened with
      | .list items => (termsOfList room kept.length items).map fun own => some (kept ++ own)
      | _ => .error .termsNotList
    else .ok (some kept)

/-- The settings that the entries of a document describe over a base. -/
def layer (room : Rooms) (base : Settings) (entries : List (Value × Value)) : Except SettingsError Settings := do
  let identifiers ← flag? room entries "include_identifiers"
  let strings ← flag? room entries "include_strings"
  let comments ← flag? room entries "include_comments"
  let sensitive ← flag? room entries "case_sensitive"
  let terms ← terms? room entries
  let time ← (Value.lookup entries "time_per_fix").mapM (secondsOfValue room)
  base.replace ⟨terms, time, identifiers, strings, comments, sensitive⟩

/-- The settings that a document describes over a base; a document that holds nothing changes nothing. -/
def layerValue (room : Rooms) (base : Settings) (v : Value) : Except SettingsError Settings :=
  match v.opened with
  | .null => layer room base []
  | .map entries => layer room base entries
  | _ => .error .notMapping

end Wording.Settings
