import Wording.Export.Json.Reader
import Wording.Proofs.Export.Json.Token

/-!
The value of a written document. The tokens of a value are read as the value, whatever arrays and objects are open
around it, so the text of a value reads back as the value, whatever the indentation.
-/

set_option autoImplicit false

namespace Wording.Export.Json

open ValueReading

/-! ## Tokens of a value -/

/-- The tokens of several items with commas between them, and the closing one behind them, are read item by item. -/
theorem foldlM_intercalate {α : Type} {written : α → List Token} {beginning whole : List α → ValueReading}
    {behind : List α → α → ValueReading} {closing : Token} {items : List α}
    (hitem : ∀ item ∈ items, ∀ before, (written item).foldlM step (beginning before) = some (behind before item))
    (hcomma : ∀ before item, step (behind before item) .comma = some (beginning (before ++ [item])))
    (hclosing : ∀ before item, step (behind before item) closing = some (whole (before ++ [item])))
    (hne : items ≠ []) (before : List α) :
    ([Token.comma].intercalate (items.map written) ++ [closing]).foldlM step (beginning before) =
      some (whole (before ++ items)) := by
  induction items generalizing before with
  | nil => exact absurd rfl hne
  | cons item rest ih =>
    have hfirst := hitem item List.mem_cons_self before
    cases rest with
    | nil =>
      rw [List.map_singleton, List.intercalate_singleton, List.foldlM_append, hfirst, Option.bind_eq_bind,
        Option.bind_some, List.foldlM_cons, hclosing]
      rfl
    | cons next others =>
      have hothers := ih (fun other hother => hitem other (List.mem_cons_of_mem _ hother)) (List.cons_ne_nil _ _)
        (before ++ [item])
      rw [List.append_assoc, List.singleton_append, List.map_cons] at hothers
      rw [List.map_cons, List.map_cons, List.intercalate_cons_cons, List.append_assoc, List.append_assoc,
        List.foldlM_append, hfirst, Option.bind_eq_bind, Option.bind_some, List.singleton_append, List.foldlM_cons,
        hcomma, Option.bind_eq_bind, Option.bind_some, hothers]

/-- The tokens of a value are read as the value, whatever is open around it. -/
theorem foldlM_tokens {v : Json} (h : WellFormed v) (around : List Frame) :
    (tokens v).foldlM step (.awaiting around) = some (.behind v around) := by
  induction h generalizing around with
  | number _ => simp only [tokens, List.foldlM_cons, List.foldlM_nil, step, bind_pure]
  | string _ => simp only [tokens, List.foldlM_cons, List.foldlM_nil, step, bind_pure]
  | @array items _ ih =>
    have hopen : step (.awaiting around) .openArray = some (.awaiting (.array [] :: around)) := by rw [step]
    rw [tokens, List.cons_append, List.foldlM_cons, hopen, Option.bind_eq_bind, Option.bind_some, itemTokens_eq_map]
    by_cases hne : items = []
    · rw [hne]
      rfl
    · exact @foldlM_intercalate _ _ (fun items => .awaiting (.array items :: around))
        (fun items => .behind (.array items) around) (fun items v => .behind v (.array items :: around)) _ _
        (fun v hv before => ih v hv _) (fun _ _ => rfl) (fun _ _ => rfl) hne []
  | @object fields _ ih =>
    have hopen : step (.awaiting around) .openObject = some (.awaitingKey [] around) := by rw [step]
    rw [tokens, List.cons_append, List.foldlM_cons, hopen, Option.bind_eq_bind, Option.bind_some, fieldTokens_eq_map]
    by_cases hne : fields = []
    · rw [hne]
      rfl
    · refine @foldlM_intercalate _ _ (fun fields => .awaitingKey fields around)
        (fun fields => .behind (.object fields) around)
        (fun fields field => .behind field.2 (.object fields field.1 :: around)) _ _
        (fun field hfield before => ?_) (fun _ _ => rfl) (fun _ _ => rfl) hne []
      have hkey : step (.awaitingKey before around) (.string field.1) = some (.behindKey before field.1 around) := by
        rw [step]
      have hcolon : step (.behindKey before field.1 around) .colon =
          some (.awaiting (.object before field.1 :: around)) := rfl
      rw [List.foldlM_cons, hkey, Option.bind_eq_bind, Option.bind_some, List.foldlM_cons, hcolon, Option.bind_eq_bind,
        Option.bind_some, ih field hfield]

/-- The text of a value reads back as the value, whatever the indentation. -/
theorem read?_text {v : Json} (h : WellFormed v) (indent : Option Int) : read? (text indent v) = some v := by
  rw [read?, tokens?_text h, Option.bind_eq_bind, Option.bind_some, ofTokens?, foldlM_tokens h]

end Wording.Export.Json
