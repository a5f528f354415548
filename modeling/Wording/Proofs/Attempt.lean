import Mathlib.Data.List.Forall2

/-! # Attempts that can fail

The results of attempts that can fail, one after the other. The program is written in this monad throughout, so that
what a function gives is found by taking its steps apart: `bind_eq_ok_iff` and `bind_eq_error_iff` say what a step and
what follows it must have given, and `mapM_eq_ok_iff` does the same for the items of a list, whose results come in the
order of the items.

Which faults an attempt can end in is told by `FailsWith`, a predicate on faults that is proved step by step: what holds
of the faults of each step holds of those of the whole. Most functions of the program are shown to fail in few ways by
these lemmas alone, without a look at what they give when they succeed.
-/

set_option autoImplicit false

namespace Wording.Attempt

variable {Fault α β : Type}

/-- Two attempts in a row succeed if both do. -/
theorem bind_eq_ok_iff {first : Except Fault α} {next : α → Except Fault β} {b : β} :
    first >>= next = .ok b ↔ ∃ a, first = .ok a ∧ next a = .ok b := by
  cases first with
  | error fault => exact ⟨nofun, nofun⟩
  | ok a => exact ⟨fun h => ⟨a, rfl, h⟩, fun ⟨_, ha, h⟩ => by cases ha; exact h⟩

theorem map_eq_ok_iff {attempt : Except Fault α} {change : α → β} {b : β} :
    attempt.map change = .ok b ↔ ∃ a, attempt = .ok a ∧ change a = b := by
  cases attempt with
  | error fault => exact iff_of_false nofun nofun
  | ok a => exact ⟨fun h => ⟨a, rfl, by cases h; rfl⟩, fun ⟨_, ha, h⟩ => by cases ha; rw [← h]; rfl⟩

theorem mapError_eq_ok_iff {Other : Type} {attempt : Except Fault α} {rename : Fault → Other} {a : α} :
    attempt.mapError rename = .ok a ↔ attempt = .ok a := by
  cases attempt with
  | error fault => exact iff_of_false nofun nofun
  | ok b => exact ⟨fun h => by cases h; rfl, fun h => by cases h; rfl⟩

/-- Two attempts in a row fail if the first fails, or the second behind it. -/
theorem bind_eq_error_iff {first : Except Fault α} {next : α → Except Fault β} {fault : Fault} :
    first >>= next = .error fault ↔ first = .error fault ∨ ∃ a, first = .ok a ∧ next a = .error fault := by
  cases first with
  | error other => exact ⟨fun h => .inl (by cases h; rfl), fun h => by obtain ⟨⟨⟩⟩ | ⟨_, ⟨⟩, _⟩ := h; rfl⟩
  | ok a => exact ⟨fun h => .inr ⟨a, rfl, h⟩, fun h => by obtain ⟨⟨⟩⟩ | ⟨_, ⟨⟩, h⟩ := h; exact h⟩

/-- An attempt with its faults renamed fails with the new name of its fault. -/
theorem mapError_eq_error_iff {Other : Type} {attempt : Except Fault α} {rename : Fault → Other} {other : Other} :
    attempt.mapError rename = .error other ↔ ∃ fault, attempt = .error fault ∧ rename fault = other := by
  cases attempt with
  | error fault => exact ⟨fun h => ⟨fault, rfl, by cases h; rfl⟩, fun ⟨_, ha, h⟩ => by cases ha; rw [← h]; rfl⟩
  | ok a => exact iff_of_false nofun nofun

theorem elim_eq_ok_iff {there : Option α} {fault : Fault} {a : α} :
    there.elim (.error fault) .ok = Except.ok a ↔ there = some a := by
  cases there with
  | none => simp only [Option.elim_none, reduceCtorEq]
  | some b => simp only [Option.elim_some, Except.ok.injEq, Option.some.injEq]

/-- If something is read from the result of an attempt, the attempt succeeds. -/
theorem exists_eq_ok_of_toOption {attempt : Except Fault α} {read : α → β} {b : β}
    (h : attempt.toOption.map read = some b) : ∃ a, attempt = .ok a ∧ read a = b := by
  cases attempt with
  | error fault => cases h
  | ok a => exact ⟨a, rfl, Option.some.inj h⟩

/-- If the attempt on each item of a list succeeds with a result that is related to the item, all of them succeed with
results that are related to the items. -/
theorem exists_mapM_eq_ok {attempt : α → Except Fault β} {related : α → β → Prop} {items : List α}
    (h : ∀ item ∈ items, ∃ result, attempt item = .ok result ∧ related item result) :
    ∃ results, items.mapM attempt = .ok results ∧ List.Forall₂ related items results := by
  induction items with
  | nil => exact ⟨[], rfl, .nil⟩
  | cons item rest ih =>
    obtain ⟨result, hitem, hrelated⟩ := h item List.mem_cons_self
    obtain ⟨results, hrest, hall⟩ := ih fun other hother => h other (List.mem_cons_of_mem _ hother)
    refine ⟨result :: results, ?_, .cons hrelated hall⟩
    rw [List.mapM_cons, hitem, hrest]
    rfl

/-- All attempts on the items of a list succeed if each of them does. -/
theorem mapM_eq_ok_iff {attempt : α → Except Fault β} {items : List α} {results : List β} :
    items.mapM attempt = .ok results ↔ List.Forall₂ (fun item result => attempt item = .ok result) items results := by
  induction items generalizing results with
  | nil =>
    rw [List.mapM_nil, List.forall₂_nil_left_iff]
    exact ⟨fun h => by cases h; rfl, fun h => by rw [h]; rfl⟩
  | cons item rest ih =>
    simp only [List.mapM_cons, bind_eq_ok_iff, List.forall₂_cons_left_iff, ih]
    constructor
    · rintro ⟨result, hitem, others, hrest, ⟨⟩⟩
      exact ⟨result, others, hitem, hrest, rfl⟩
    · rintro ⟨result, others, hitem, hrest, rfl⟩
      exact ⟨result, hitem, others, hrest, rfl⟩

/-- If all attempts on the items of a list succeed, each result is that of an item. -/
theorem exists_of_mem_mapM {attempt : α → Except Fault β} {items : List α} {results : List β}
    (h : items.mapM attempt = .ok results) {result : β} (hresult : result ∈ results) :
    ∃ item ∈ items, attempt item = .ok result := by
  have hall := mapM_eq_ok_iff.mp h
  induction hall with
  | nil => cases hresult
  | @cons item first _ _ hitem hrest ih =>
    rcases List.mem_cons.mp hresult with rfl | hresult
    · exact ⟨item, List.mem_cons_self, hitem⟩
    · obtain ⟨other, hother, hof⟩ := ih (mapM_eq_ok_iff.mpr hrest) hresult
      exact ⟨other, List.mem_cons_of_mem _ hother, hof⟩

/-- If all attempts on the items of a list succeed, there are as many results as items. -/
theorem length_of_mapM_eq_some {attempt : α → Option β} {items : List α} {results : List β}
    (h : items.mapM attempt = some results) : items.length = results.length := by
  induction items generalizing results with
  | nil =>
    cases h
    rfl
  | cons item rest ih =>
    rw [List.mapM_cons] at h
    obtain ⟨result, -, h⟩ := Option.bind_eq_some_iff.mp h
    obtain ⟨others, hrest, h⟩ := Option.bind_eq_some_iff.mp h
    cases h
    exact congrArg (· + 1) (ih hrest)

/-! ## Which faults there can be -/

/-- That an attempt fails, if it does, with a fault that something holds of. -/
def FailsWith (allowed : Fault → Prop) (attempt : Except Fault α) : Prop :=
  ∀ fault, attempt = .error fault → allowed fault

section FailsWith

variable {allowed : Fault → Prop}

theorem failsWith_ok (a : α) : FailsWith allowed (.ok a) := nofun

theorem failsWith_error_iff {fault : Fault} : FailsWith allowed (.error fault : Except Fault α) ↔ allowed fault := by
  simp only [FailsWith, Except.error.injEq, forall_eq']

/-- Of two attempts in a row the first one can fail, and behind it the second. -/
theorem failsWith_bind_iff {first : Except Fault α} {next : α → Except Fault β} :
    FailsWith allowed (first >>= next) ↔
      FailsWith allowed first ∧ ∀ a, first = .ok a → FailsWith allowed (next a) := by
  simp only [FailsWith, bind_eq_error_iff]
  constructor
  · intro h
    exact ⟨fun fault hfault => h fault (.inl hfault), fun a ha fault hfault => h fault (.inr ⟨a, ha, hfault⟩)⟩
  · rintro ⟨hfirst, hnext⟩ fault (hfault | ⟨a, ha, hfault⟩)
    · exact hfirst fault hfault
    · exact hnext a ha fault hfault

theorem failsWith_map_iff {attempt : Except Fault α} {change : α → β} :
    FailsWith allowed (attempt.map change) ↔ FailsWith allowed attempt := by
  cases attempt with
  | error fault => rw [Except.map, failsWith_error_iff, failsWith_error_iff]
  | ok a => exact iff_of_true (failsWith_ok _) (failsWith_ok _)

theorem failsWith_mapError_iff {Other : Type} {attempt : Except Other α} {rename : Other → Fault} :
    FailsWith allowed (attempt.mapError rename) ↔ FailsWith (fun other => allowed (rename other)) attempt := by
  cases attempt with
  | error fault => rw [Except.mapError, failsWith_error_iff, failsWith_error_iff]
  | ok a => exact iff_of_true (failsWith_ok _) (failsWith_ok _)

/-- If each attempt on an item of a list fails with such faults only, all of them together do. -/
theorem failsWith_mapM {attempt : α → Except Fault β} {items : List α}
    (h : ∀ item ∈ items, FailsWith allowed (attempt item)) : FailsWith allowed (items.mapM attempt) := by
  induction items with
  | nil => exact failsWith_ok []
  | cons item rest ih =>
    obtain ⟨hitem, hrest⟩ := List.forall_mem_cons.mp h
    rw [List.mapM_cons, failsWith_bind_iff]
    refine ⟨hitem, fun _ _ => failsWith_bind_iff.mpr ⟨ih hrest, fun _ _ => failsWith_ok _⟩⟩

end FailsWith

end Wording.Attempt
