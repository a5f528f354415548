import Wording.Console.ScanText

/-!
What a console is handed of settings: a table of the terms, and a line on how they are looked for.
-/

set_option autoImplicit false

namespace Wording.Console

def termColumns : List Column :=
  [{ title := "ID".toList, style := "dim".toList },
   { title := "Term".toList, style := "bold".toList },
   { title := "Category".toList },
   { title := "Severity".toList },
   { title := "Suggestions".toList }]

def termRow (t : Term) : List Text :=
  [t.id, t.text, t.category.text, styled (severityColour t.severity) t.severity.text, Text.listed t.suggestions]

/-- How many terms there are, and how they are looked for. -/
def modeLine (s : Settings) : Except ExportError Text :=
  (integerText s.timePerFix).map fun seconds =>
    Nat.toDigits 10 s.terms.length ++ " terms, case-".toList ++
      (if s.caseSensitive then "sensitive".toList else "insensitive".toList) ++ ", ".toList ++
      seconds ++ "s per fix".toList

/-- The table of the terms of settings and the line below it. -/
def terms (s : Settings) : List Making :=
  [.ok (.table ⟨"Biased terms".toList, termColumns, s.terms.map termRow⟩), textOf (modeLine s)]

end Wording.Console
