import Wording.Scan.Scanner
import Wording.Settings.Proposal

/-!
Sessions with a scanner: the steps that it can be asked for, one after the other, and what each of them leaves. Other
settings are first proposed to some that are there; if the proposal is turned down, the scanner is not touched. A batch
can be broken off from outside before it ends.
-/

set_option autoImplicit false

namespace Wording.Scanner

/-- What a scanner can be asked for. -/
inductive Step where
  | scanText (name content : Text)
  | scanSource (source : Source)
  | scanBatch (stop : Nat → Bool) (sources : List Source)
  | brokenBatch
  | scanPaths (paths : List Text)
  | collect (paths : List Text)
  | languages
  | update (room : Rooms) (base : Settings) (proposal : Settings.Proposal)

/-- What a scanner answers. -/
inductive Answer where
  | file (result : Except ScanError FileReport)
  | batch (result : Except FileError BatchReport)
  | broken
  | paths (result : Except FileError (List Text))
  | languages (names : List Text)
  | settings (result : Except Settings.ProposalFault Settings)

/-- The answer to a step, and the scanner behind it. -/
def perform (s : Scanner) (around : Surroundings) : Step → Answer × Scanner
  | .scanText name content => (.file (s.scanText around name content), s)
  | .scanSource source => (.file (s.scanSource around source), s)
  | .scanBatch stop sources =>
    let (report, next) := s.scanBatch around stop sources
    (.batch (.ok report), next)
  | .brokenBatch => (.broken, s.beginBatch)
  | .scanPaths paths =>
    match s.scanPaths around paths with
    | .ok (report, next) => (.batch (.ok report), next)
    | .error e => (.batch (.error e), s)
  | .collect paths => (.paths (s.collect around.disk paths), s)
  | .languages => (.languages s.catalog.languages, s)
  | .update room base proposal =>
    match base.propose room proposal with
    | .ok settings => (.settings (.ok settings), s.withSettings settings)
    | .error fault => (.settings (.error fault), s)

/-- The answers to some steps in their order, each with the state behind it. -/
def run (s : Scanner) (around : Surroundings) : List Step → List (Answer × ScanState)
  | [] => []
  | step :: rest =>
    let (answer, next) := s.perform around step
    (answer, next.state) :: next.run around rest

end Wording.Scanner
