import Wording.Proofs.Catalog.Registration
import Wording.Proofs.Text.SmallForm

/-! # Extensions that are listed and resolved

An extension is looked up in small letters and listed as its parser spells it. So an extension that is spelled with a
capital is found only if some parser lists its small form too, and whether all listed extensions are found hangs on the
current parsers alone. Both answers are read off `Records`, which tells a catalog by its history, whatever was
registered and in which order. That each small form is its own small form (`lower_lower`) is what makes an extension in
small letters resolve if it is listed.
-/

set_option autoImplicit false

namespace Wording.Catalog

/-- That a catalog resolves an extension: it finds a parser for it, and the parser lists it up to letter case. -/
def Resolves (c : Catalog) (extension : Text) : Prop :=
  ∃ p, c.parserOfExtension? extension = some p ∧ ∃ x ∈ p.extensions, Text.lower x = Text.lower extension

variable {history : List Parser} {c : Catalog}

theorem Records.mem_extensions_iff (h : Records c history) {extension : Text} :
    extension ∈ c.extensions ↔ ∃ p, IsCurrent history p ∧ extension ∈ p.extensions := by
  simp only [extensions, Text.mem_firstSeen_iff, List.mem_flatMap, h.mem_iff]

/-- An extension is resolved if a current parser lists its small form. -/
theorem Records.resolves_iff (h : Records c history) {extension : Text} :
    c.Resolves extension ↔ ∃ p, IsCurrent history p ∧ Text.lower extension ∈ p.extensions := by
  rw [← h.isSome_parserOfExtension?_iff, Option.isSome_iff_exists]
  refine ⟨fun ⟨p, hp, _⟩ => ⟨p, hp⟩, fun ⟨p, hp⟩ => ⟨p, hp, Text.lower extension, ?_, Text.lower_lower extension⟩⟩
  exact (h.parserOfExtension?_eq_some_iff.mp hp).lists

theorem IsCurrent.mem {p : Parser} (h : IsCurrent history p) : p ∈ history := by
  obtain ⟨before, after, rfl, -⟩ := h
  exact List.mem_append_right _ List.mem_cons_self

/-- After any registrations, an extension is resolved exactly when a current parser lists its small form. So all
extensions that the catalog lists are resolved exactly when the current parsers list the small forms of theirs among
them; this is so if every parser spells its extensions in small letters. -/
theorem extensions_of_registrations (history : List Parser) :
    let c := ofParsers history
    (∀ extension, c.Resolves extension ↔ ∃ p, IsCurrent history p ∧ Text.lower extension ∈ p.extensions) ∧
      ((∀ extension ∈ c.extensions, c.Resolves extension) ↔
        ∀ p, IsCurrent history p → ∀ extension ∈ p.extensions,
          ∃ q, IsCurrent history q ∧ Text.lower extension ∈ q.extensions) ∧
      ((∀ p ∈ history, ∀ extension ∈ p.extensions, Text.lower extension = extension) →
        ∀ extension ∈ c.extensions, c.Resolves extension) := by
  intro c
  have h : Records c history := records_ofParsers history
  refine ⟨fun _ => h.resolves_iff, ?_, fun hsmall extension hlisted => ?_⟩
  · simp only [h.mem_extensions_iff, h.resolves_iff]
    exact ⟨fun hall p hp extension hlists => hall extension ⟨p, hp, hlists⟩,
      fun hall extension ⟨p, hp, hlists⟩ => hall p hp extension hlists⟩
  · obtain ⟨p, hp, hlists⟩ := h.mem_extensions_iff.mp hlisted
    refine h.resolves_iff.mpr ⟨p, hp, ?_⟩
    rwa [hsmall p hp.mem extension hlists]

/-- A parser of Ruby that lists some extensions and finds no token. -/
def ruby (extensions : List String) : Parser :=
  ⟨"ruby".toList, extensions.map String.toList, fun t => .ok ⟨[], [], [], Text.lines t⟩⟩

/-- With a parser that lists an extension in capital and in small letters, both are resolved; and so are all extensions
of the built-in parsers. -/
theorem extensions_of_registrations_spelledTwice :
    (ofParsers [.python, ruby [".RB", ".rb"]]).Resolves ".RB".toList ∧
      ∀ extension ∈ builtin.extensions, builtin.Resolves extension := by
  refine ⟨((extensions_of_registrations _).1 _).mpr ⟨ruby [".RB", ".rb"], ?_, ?_⟩,
    (extensions_of_registrations _).2.2 ?_⟩
  · exact ⟨[.python], [], rfl, nofun⟩
  · decide +kernel
  · decide +kernel

/-- An extension in capital letters that its parser does not list in small ones is listed, and it is not resolved. -/
theorem capitals_not_resolved :
    ".RB".toList ∈ (ofParsers [ruby [".RB"]]).extensions ∧ ¬ (ofParsers [ruby [".RB"]]).Resolves ".RB".toList := by
  have hnone : ((ofParsers [ruby [".RB"]]).parserOfExtension? ".RB".toList).isNone := by
    decide +kernel
  refine ⟨by decide +kernel, ?_⟩
  rintro ⟨p, hp, -⟩
  rw [hp] at hnone
  cases hnone

end Wording.Catalog
