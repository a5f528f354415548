import Wording.Command.Outcome

/-!
The command that scans paths. It loads a configuration, makes a scanner of it, scans, and shows the report as tables or
as a document. The exit code tells whether anything was found, however it is shown.
-/

set_option autoImplicit false

namespace Wording.Command

namespace ScanRequest

/-- The exit code of a scan: one if it found anything. -/
def exitCode (b : BatchReport) : Nat := if 0 < b.totalOccurrences then 1 else 0

/-- What is printed of a report as tables: the files that are selected, perhaps their findings, and the summary of all
of it. -/
def tables (r : ScanRequest) (escape : Text → Text) (b : BatchReport) : List Console.Making :=
  let shown := r.selection.apply b.files
  Console.files escape shown :: (if r.details then shown.flatMap (Console.details escape) else []) ++
    Console.summary b

/-- The path that a document is written to: in a folder, it has the name of its kind and the date. -/
def documentPath (around : Surroundings) (kind : Export.Kind) (output : Text) : Except Fault Text := do
  let path := Path.plain output
  if ← (around.disk.isFolderAt path).mapError .file then
    let now ← (Instant.ofQuantity around.now).mapError fun fault => .report (.time fault)
    pure (Path.child path (kind.fileName now.date))
  else pure path

/-- What is said about a document that was written. -/
def writtenText (escape : Text → Text) (kind : Export.Kind) (path : Text) : Text :=
  "Wrote ".toList ++ kind.text ++ " export to ".toList ++ Console.styled "cyan".toList (escape path)

variable (r : ScanRequest) (p : Platform) (around : Surroundings)

/-- Shows a report as a document: on the output, or in a file. -/
def documentOutcome (kind : Export.Kind) (b : BatchReport) : Except Fault Outcome := do
  let text ← (kind.document b).mapError .report
  if r.output = [] then
    pure { ending := .exit (exitCode b), output := ← (p.echo text).mapError .package }
  else
    let path ← documentPath around kind r.output
    match around.disk.writeFault? path with
    | some fault => .error (.file fault)
    | none =>
      let printing := p.printAll .messages [.ok (.text (writtenText p.escape kind path))]
      pure
        { ending := printing.ending (exitCode b)
          messages := printing.bytes
          document := some ⟨path, Text.encodeUtf8 (text ++ ['\n'])⟩ }

/-- Shows a report in the form that is asked for. -/
def outcome (b : BatchReport) : Except Fault Outcome :=
  match r.format with
  | .table =>
    let printing := p.printAll .messages (r.tables p.escape b)
    .ok { ending := printing.ending (exitCode b), messages := printing.bytes }
  | .document kind => r.documentOutcome p around kind b

/-- Scans with a scanner and shows the report. -/
def scanAndShow (s : Scanner) : Except Stop Outcome := do
  let scanned ← (s.scanPaths around r.paths).mapError fun fault => .raise (.file fault)
  (r.outcome p around scanned.1).mapError .raise

/-- Carries a request out under a configuration. -/
def carryOut (c : Configuration) : Except Stop Outcome := do
  r.scanAndShow p around (← (r.scanner c).mapError .ofOptionError)

end ScanRequest

def runScan (p : Platform) (around : Surroundings) (e : Environment) (named : Option Text) (r : ScanRequest) :
    Except Stop Outcome := do
  r.carryOut p around (← p.load around.disk e named)

end Wording.Command
