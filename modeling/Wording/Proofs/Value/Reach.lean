import Wording.Value.Basic

/-!
What stands under a name in the entries of a mapping, and which values are reached from them: those of the entries
themselves, and from each value that is reached the items of its list or the values of its entries. These are the values
that the reading of settings comes to.
-/

set_option autoImplicit false

namespace Wording.Value

/-- That a value has some items: those of a list or of a tuple. -/
def HasItems (v : Value) (items : List Value) : Prop := v.opened = .list items ∨ v.opened = .tuple items

/-- That a value is reached from the entries of a mapping. -/
inductive Holds (entries : List (Value × Value)) : Value → Prop
  | entry {k v : Value} (hentry : (k, v) ∈ entries) : Holds entries v
  | item {w v : Value} {items : List Value} (hw : Holds entries w) (hitems : w.HasItems items) (hv : v ∈ items) :
    Holds entries v
  | value {w k v : Value} {inner : List (Value × Value)} (hw : Holds entries w) (hinner : w.opened = .map inner)
    (hentry : (k, v) ∈ inner) : Holds entries v

theorem exists_mem_of_lookup {entries : List (Value × Value)} {name : String} {v : Value}
    (h : lookup entries name = some v) : ∃ k, (k, v) ∈ entries := by
  obtain ⟨⟨k, w⟩, hentry, rfl⟩ := Option.map_eq_some_iff.mp h
  exact ⟨k, List.mem_of_find?_eq_some hentry⟩

/-- Under a name stands the value of the first entry, if that has the name as its key, and else what stands in the
others. -/
theorem lookup_cons_text (key name : String) (v : Value) (rest : List (Value × Value)) :
    lookup ((.text key.toList, v) :: rest) name = if key = name then some v else lookup rest name := by
  rw [lookup, List.find?_cons]
  split
  next h =>
    rw [if_pos (String.toList_inj.mp (of_decide_eq_true h)), Option.map_some]
  next h =>
    rw [if_neg fun hname => of_decide_eq_false h (congrArg String.toList hname), lookup]

/-- A value inside so many lists. -/
def nested : Nat → Value
  | 0 => .list []
  | n + 1 => .list [nested n]

/-- A value inside so many lists cannot be shown in a room that is no larger. -/
theorem shown_nested_of_le {levels n : Nat} (h : levels ≤ n) : (nested n).shown levels = .error .tooDeep := by
  rw [shown]
  induction n generalizing levels with
  | zero =>
    rw [Nat.le_zero.mp h]
    rfl
  | succ n ih =>
    cases levels with
    | zero => rfl
    | succ levels =>
      rw [nested, shownIn, shownItems, ih (Nat.le_of_succ_le_succ h)]
      rfl

end Wording.Value
