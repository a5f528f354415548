import Wording.Catalog
import Wording.Scan.Report
import Wording.Scan.Source

/-!
The scanner: settings and the matcher that was built from them, a catalog of parsers, a size limit and names to leave
out, together with how far it is with a batch. It reads its sources from a disk and stamps its reports with the time.
Whoever gives it other settings has to give it their matcher too.
-/

set_option autoImplicit false

namespace Wording

/-- How far a scanner is with a batch. -/
inductive ScanState where
  | idle
  | scanning
  | completed
  | partiallyFailed
deriving DecidableEq, Repr

def ScanState.text : ScanState → Text
  | .idle => "idle".toList
  | .scanning => "scanning".toList
  | .completed => "completed".toList
  | .partiallyFailed => "partially_failed".toList

/-- What a scanner finds around it: the files and the time. -/
structure Surroundings where
  disk : Disk
  now : Number.Quantity

/-- A scanner. -/
structure Scanner where
  settings : Settings
  matcher : Matcher
  catalog : Catalog
  sizeLimit : Int
  excluded : List Text
  state : ScanState

namespace Scanner

/-- The most characters that a file may have if nothing else is said. -/
def builtinSizeLimit : Int := 1048576

/-- A scanner that has not scanned anything. -/
def new (settings : Settings) (catalog : Catalog) (sizeLimit : Int) (excluded : List Text) : Scanner :=
  ⟨settings, settings.matcher, catalog, sizeLimit, excluded, .idle⟩

/-- The kinds of tokens that settings let count, with their tokens. -/
def countedTokens (settings : Settings) (tokens : Tokens) : List (TokenKind × List Text) :=
  [(settings.includeIdentifiers, TokenKind.identifier, tokens.identifiers),
   (settings.includeStrings, TokenKind.string, tokens.strings),
   (settings.includeComments, TokenKind.comment, tokens.comments)].filterMap
    fun (counts, kind, ts) => if counts then some (kind, ts) else none

/-- The number of tokens and the findings of a text that a parser took apart. -/
def scanTokens (matcher : Matcher) (settings : Settings) (tokens : Tokens) : Nat × List Finding :=
  let counted := countedTokens settings tokens
  ((counted.map fun (_, ts) => ts.length).foldr (· + ·) 0,
   counted.flatMap fun (kind, ts) => matcher.findings kind ts tokens.lines)

/-- The number of words and the findings of a text that no parser reads; its words count as strings. -/
def scanWords (matcher : Matcher) (settings : Settings) (content : Text) : Nat × List Finding :=
  if settings.includeStrings then
    let words := Tokens.splitWords content
    (words.length, matcher.findings .string words (Text.lines content))
  else (0, [])

/-- The report on a text under a name, shown at a path. -/
def scanContent (s : Scanner) (now : Number.Quantity) (name path content : Text) :
    Except ScanError FileReport :=
  if s.sizeLimit < content.length then .error (.tooLarge name content.length s.sizeLimit)
  else
    let detected := s.catalog.detect name content
    let report (language : Text) (counted : Nat × List Finding) : FileReport :=
      let (total, findings) := counted
      { path := path
        name := name
        language := language
        totalElements := total
        biasedElements := findings.length
        biasPercentage := Number.percentage findings.length total
        estimatedFixTime := findings.length * s.settings.timePerFix
        findings := findings
        lastScanned := now
        error := [] }
    match s.catalog.parser? detected with
    | none => .ok (report Catalog.plainText (scanWords s.matcher s.settings content))
    | some parser =>
      match parser.parse content with
      | .error message => .error (.parserGaveUp message)
      | .ok tokens => .ok (report detected (scanTokens s.matcher s.settings tokens))

def scanSource (s : Scanner) (around : Surroundings) (source : Source) : Except ScanError FileReport := do
  s.scanContent around.now source.name source.displayPath (← source.read around.disk)

def scanText (s : Scanner) (around : Surroundings) (name content : Text) : Except ScanError FileReport :=
  s.scanSource around { name := name, content := some content }

/-- The report on a source that could not be scanned. -/
def failedReport (now : Number.Quantity) (source : Source) (e : ScanError) : FileReport :=
  { path := source.displayPath
    name := source.name
    language := Catalog.plainText
    totalElements := 0
    biasedElements := 0
    biasPercentage := .binary (Number.Binary.zero false)
    estimatedFixTime := 0
    findings := []
    lastScanned := now
    error := e.message }

/-- The report on one source of a batch, and whether its scan failed. -/
def scanRow (s : Scanner) (around : Surroundings) (source : Source) : FileReport × Bool :=
  match s.scanSource around source with
  | .ok report => (report, false)
  | .error e => (failedReport around.now source e, true)

/-- The rows of a batch of which `done` sources are scanned, until a signal stops it. The signal is asked
before each source with the number of sources behind it. -/
def scanRows (s : Scanner) (around : Surroundings) (stop : Nat → Bool) (done : Nat) :
    List Source → List (FileReport × Bool)
  | [] => []
  | source :: rest =>
    if stop done then [] else s.scanRow around source :: s.scanRows around stop (done + 1) rest

/-- A signal that never comes. -/
def never : Nat → Bool := fun _ => false

/-- A signal that comes while source number `n` is read, or beforehand if there is no such number. -/
def whileReading (n : Int) : Nat → Bool := fun done => n ≤ done

/-- The scanner once it has begun with a batch. -/
def beginBatch (s : Scanner) : Scanner := { s with state := .scanning }

/-- The scanner behind a batch with so many failures. -/
def endBatch (s : Scanner) (failures : Nat) : Scanner :=
  { s with state := if failures = 0 then .completed else .partiallyFailed }

/-- Scans a batch of sources in order. A source that cannot be scanned leaves a row with its error. -/
def scanBatch (s : Scanner) (around : Surroundings) (stop : Nat → Bool) (sources : List Source) :
    BatchReport × Scanner :=
  let busy := s.beginBatch
  let rows := busy.scanRows around stop 0 sources
  let reports := rows.map (·.1)
  let failures := rows.countP (·.2)
  ({ totalFiles := sources.length
     scannedFiles := reports.length
     totalOccurrences := (reports.map (·.biasedElements)).foldr (· + ·) 0
     estimatedTotalTime := (reports.map (·.estimatedFixTime)).foldr (· + ·) 0
     files := reports
     scanDuration := .binary (Number.Binary.zero false)
     timestamp := around.now },
   busy.endBatch failures)

/-- The files that paths stand for. -/
def collect (s : Scanner) (disk : Disk) (paths : List Text) : Except FileError (List Text) :=
  disk.collect s.excluded paths

def scanPaths (s : Scanner) (around : Surroundings) (paths : List Text) :
    Except FileError (BatchReport × Scanner) := do
  pure (s.scanBatch around never ((← s.collect around.disk paths).map Source.ofPath))

/-- The scanner with other settings and their matcher. -/
def withSettings (s : Scanner) (settings : Settings) : Scanner :=
  { s with settings := settings, matcher := settings.matcher }

end Scanner

end Wording
