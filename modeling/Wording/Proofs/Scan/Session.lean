import Wording.Scan.Session
import Wording.Proofs.Scan.Batch

/-! # What a scanner keeps from one step to the next

A step changes nothing but the settings with their matcher, if it supplies some, and the state, if it begins a batch
(`perform_snd`). The two fields that new settings change stay in step: the matcher is that of the settings in a new
scanner, and each step keeps it so, whether it succeeds or fails (`InStep.perform`); so it is behind any steps
(`InStep.after`).

That is all that a step asks of the scanner, and no answer hangs on the state (`perform_fst_withState`), so a scanner
answers like a new one with the settings that were supplied last. Its state tells of the last batch alone: a step that
begins one determines it, and every other step leaves it.

Paths that cannot be looked up make no batch: a scan of them leaves the state as it was. A batch that is broken off
leaves the scanner as if it were still scanning, until the next one; that is the only step behind which this state is
seen.
-/

set_option autoImplicit false

namespace Wording.Scanner

/-- The settings that a step supplies. -/
def Step.settings? : Step → Option Settings
  | .update room base proposal => (base.propose room proposal).toOption
  | _ => none

/-- A batch that comes to its end, with its signal, or one that is broken off. -/
inductive Batch where
  | ended (stop : Nat → Bool) (sources : List Source)
  | broken

/-- The batch that a step begins. -/
def Step.batch? (disk : Disk) (excluded : List Text) : Step → Option Batch
  | .scanBatch stop sources => some (.ended stop sources)
  | .brokenBatch => some .broken
  | .scanPaths paths => (disk.collect excluded paths).toOption.map fun files => .ended never (files.map Source.ofPath)
  | _ => none

/-- The state that a batch leaves a scanner in. -/
def Batch.stateBehind (s : Scanner) (around : Surroundings) : Batch → ScanState
  | .ended stop sources => (s.scanBatch around stop sources).2.state
  | .broken => .scanning

/-- The settings that were supplied last, after some that were there before. -/
def lastSettings (settings : Settings) (steps : List Step) : Settings :=
  (steps.filterMap Step.settings?).getLast?.getD settings

/-- The settings that the first step leaves are those that the others begin with. -/
theorem lastSettings_cons (settings : Settings) (step : Step) (rest : List Step) :
    lastSettings settings (step :: rest) = lastSettings (step.settings?.getD settings) rest := by
  unfold lastSettings
  cases hstep : step.settings? with
  | none => rw [List.filterMap_cons_none hstep, Option.getD_none]
  | some supplied =>
    rw [List.filterMap_cons_some hstep, List.getLast?_cons, Option.getD_some, Option.getD_some]

/-- The scanner behind some steps. -/
def after (s : Scanner) (around : Surroundings) (steps : List Step) : Scanner :=
  steps.foldl (fun s step => (s.perform around step).2) s

/-! ## Single steps -/

section Steps

variable {s : Scanner} (around : Surroundings)

/-- A scan of paths is a batch of the files that they stand for, if they can be looked up. -/
theorem scanPaths_eq (s : Scanner) (paths : List Text) :
    s.scanPaths around paths =
      (around.disk.collect s.excluded paths).map fun files => s.scanBatch around never (files.map Source.ofPath) := by
  rw [scanPaths, collect]
  cases around.disk.collect s.excluded paths <;> rfl

theorem perform_scanPaths_fst (s : Scanner) (paths : List Text) :
    (s.perform around (.scanPaths paths)).1 = .batch ((s.scanPaths around paths).map Prod.fst) := by
  rw [perform]
  cases s.scanPaths around paths <;> rfl

theorem scanBatch_state_eq_or (s : Scanner) (stop : Nat → Bool) (sources : List Source) :
    (s.scanBatch around stop sources).2.state = .completed ∨
      (s.scanBatch around stop sources).2.state = .partiallyFailed := by
  rw [scanBatch_state]
  split
  · exact Or.inl rfl
  · exact Or.inr rfl

/-- What a step leaves: the settings that it supplies with their matcher, the state that its batch leaves, and the rest
as it was. -/
theorem perform_snd (s : Scanner) (step : Step) :
    (s.perform around step).2 =
      { s with
        settings := step.settings?.getD s.settings
        matcher := step.settings?.elim s.matcher Settings.matcher
        state := (step.batch? around.disk s.excluded).elim s.state (Batch.stateBehind s around) } := by
  cases step with
  | scanText name content => rfl
  | scanSource source => rfl
  | scanBatch stop sources => rfl
  | brokenBatch => rfl
  | scanPaths paths =>
    simp only [perform, scanPaths_eq, Step.batch?, Step.settings?]
    cases around.disk.collect s.excluded paths <;> rfl
  | collect paths => rfl
  | languages => rfl
  | update room base proposal =>
    simp only [perform, Step.batch?, Step.settings?]
    cases base.propose room proposal <;> rfl

/-- A step keeps the matcher in step with the settings. -/
theorem InStep.perform (h : s.InStep) (step : Step) : (s.perform around step).2.InStep := by
  rw [InStep, perform_snd]
  cases step.settings? with
  | none => exact h
  | some settings => rfl

/-- But for its state, a scanner whose matcher is in step with its settings is a new one. -/
theorem InStep.eq_new (h : s.InStep) :
    s = { new s.settings s.catalog s.sizeLimit s.excluded with state := s.state } := by
  have hmatcher : s.matcher = s.settings.matcher := h
  rw [new, ← hmatcher]

/-- No answer hangs on the state. -/
theorem perform_fst_withState (s : Scanner) (state : ScanState) (step : Step) :
    ({ s with state := state }.perform around step).1 = (s.perform around step).1 := by
  cases step with
  | scanText name content => rfl
  | scanSource source => rfl
  | scanBatch stop sources => rfl
  | brokenBatch => rfl
  | scanPaths paths =>
    simp only [perform_scanPaths_fst, scanPaths_eq]
    cases around.disk.collect s.excluded paths <;> rfl
  | collect paths => rfl
  | languages => rfl
  | update room base proposal =>
    simp only [perform]
    cases base.propose room proposal <;> rfl

/-- A batch leaves such a scanner in the state that it leaves a new one in. -/
theorem InStep.stateBehind_eq_new (h : s.InStep) (batch : Batch) :
    batch.stateBehind s around = batch.stateBehind (new s.settings s.catalog s.sizeLimit s.excluded) around := by
  conv_lhs => rw [h.eq_new]
  cases batch <;> rfl

variable {around} {step : Step}

theorem perform_state_of_batch {batch : Batch} (h : step.batch? around.disk s.excluded = some batch) :
    (s.perform around step).2.state = batch.stateBehind s around := by
  rw [perform_snd, h]
  rfl

theorem perform_state_of_no_batch (h : step.batch? around.disk s.excluded = none) :
    (s.perform around step).2.state = s.state := by
  rw [perform_snd, h]
  rfl

end Steps

/-! ## Runs -/

section Runs

variable (s : Scanner) (around : Surroundings)

theorem after_cons (step : Step) (rest : List Step) :
    s.after around (step :: rest) = (s.perform around step).2.after around rest :=
  rfl

theorem after_append (first rest : List Step) :
    s.after around (first ++ rest) = (s.after around first).after around rest :=
  List.foldl_append

/-- The matcher is in step with the settings behind any steps. -/
theorem InStep.after {s : Scanner} (h : s.InStep) (steps : List Step) : (s.after around steps).InStep := by
  induction steps generalizing s with
  | nil => exact h
  | cons step rest ih => exact ih (h.perform around step)

/-- Steps leave the settings that were supplied last, and nothing else but the matcher and the state can change. -/
theorem after_fields (steps : List Step) :
    (s.after around steps).settings = lastSettings s.settings steps ∧ (s.after around steps).catalog = s.catalog ∧
      (s.after around steps).sizeLimit = s.sizeLimit ∧ (s.after around steps).excluded = s.excluded := by
  induction steps generalizing s with
  | nil => exact ⟨rfl, rfl, rfl, rfl⟩
  | cons step rest ih =>
    have hrest := ih (s.perform around step).2
    rw [lastSettings_cons, after_cons]
    rwa [perform_snd] at hrest ⊢

theorem after_state_of_no_batch {steps : List Step}
    (h : ∀ step ∈ steps, step.batch? around.disk s.excluded = none) :
    (s.after around steps).state = s.state := by
  induction steps generalizing s with
  | nil => rfl
  | cons step rest ih =>
    obtain ⟨hstep, hrest⟩ := List.forall_mem_cons.mp h
    have hexcluded : (s.perform around step).2.excluded = s.excluded := by
      rw [perform_snd]
    rw [after_cons, ih _ (hexcluded ▸ hrest), perform_state_of_no_batch hstep]

theorem run_cons (step : Step) (rest : List Step) :
    s.run around (step :: rest) =
      ((s.perform around step).1, (s.perform around step).2.state) ::
        (s.perform around step).2.run around rest :=
  rfl

/-- What a run answers to one of its steps, and the state that the step leaves. -/
theorem run_getElem? (history later : List Step) (step : Step) :
    (s.run around (history ++ step :: later))[history.length]? =
      some (((s.after around history).perform around step).1,
        (s.after around (history ++ [step])).state) := by
  induction history generalizing s with
  | nil => rfl
  | cons first rest ih =>
    rw [List.cons_append, run_cons, List.length_cons, List.getElem?_cons_succ, ih]
    rfl

end Runs

/-- That the state of a scanner, which began as a new one with some settings, tells of the last batch among its
steps alone. If there was none, the scanner is idle. If the last one came to its end, the scanner has completed it or
failed partially, as a new scanner with the settings of that time does; if it was broken off, the scanner is still
scanning. -/
structure TellsLastBatch (settings : Settings) (catalog : Catalog) (sizeLimit : Int) (excluded : List Text)
    (around : Surroundings) (steps : List Step) (state : ScanState) : Prop where
  idle : (∀ step ∈ steps, step.batch? around.disk excluded = none) → state = .idle
  ended : ∀ (before later : List Step) (step : Step) (stop : Nat → Bool) (sources : List Source),
    steps = before ++ step :: later → step.batch? around.disk excluded = some (.ended stop sources) →
      (∀ step ∈ later, step.batch? around.disk excluded = none) →
        state = ((new (lastSettings settings before) catalog sizeLimit excluded).scanBatch around stop
          sources).2.state ∧
        (state = .completed ∨ state = .partiallyFailed)
  broken : ∀ before later : List Step, steps = before ++ .brokenBatch :: later →
    (∀ step ∈ later, step.batch? around.disk excluded = none) → state = .scanning

section

variable (settings : Settings) (catalog : Catalog) (sizeLimit : Int) (excluded : List Text)
  (around : Surroundings)

/-- Behind some steps a scanner is a new one with the settings that were supplied last, but for its state. -/
theorem after_eq (steps : List Step) :
    (new settings catalog sizeLimit excluded).after around steps =
      { new (lastSettings settings steps) catalog sizeLimit excluded with
        state := ((new settings catalog sizeLimit excluded).after around steps).state } := by
  obtain ⟨hsettings, hcatalog, hlimit, hexcluded⟩ := after_fields (new settings catalog sizeLimit excluded) around steps
  have hnew := ((inStep_new settings catalog sizeLimit excluded).after around steps).eq_new
  rwa [hsettings, hcatalog, hlimit, hexcluded] at hnew

/-- A batch and steps that begin none leave the state that the batch leaves a new scanner in. -/
theorem after_state_of_batch {before later : List Step} {step : Step} {batch : Batch}
    (hbatch : step.batch? around.disk excluded = some batch)
    (hlater : ∀ step ∈ later, step.batch? around.disk excluded = none) :
    ((new settings catalog sizeLimit excluded).after around (before ++ step :: later)).state =
      batch.stateBehind (new (lastSettings settings before) catalog sizeLimit excluded) around := by
  obtain ⟨hsettings, hcatalog, hlimit, hexcluded⟩ :=
    after_fields (new settings catalog sizeLimit excluded) around before
  have hstep := (inStep_new settings catalog sizeLimit excluded).after around before
  have hunchanged : ((new settings catalog sizeLimit excluded).after around before).excluded = excluded := hexcluded
  have hkept : (((new settings catalog sizeLimit excluded).after around before).perform around step).2.excluded =
      excluded := by
    rw [perform_snd, hunchanged]
  rw [after_append, after_cons, after_state_of_no_batch _ around (hkept.symm ▸ hlater),
    perform_state_of_batch (hunchanged.symm ▸ hbatch), hstep.stateBehind_eq_new, hsettings, hcatalog, hlimit, hexcluded]
  rfl

/-- The state behind some steps tells of the last batch among them. -/
theorem tellsLastBatch_after (steps : List Step) :
    TellsLastBatch settings catalog sizeLimit excluded around steps
      ((new settings catalog sizeLimit excluded).after around steps).state where
  idle hnone := after_state_of_no_batch _ around hnone
  ended := by
    rintro before later step stop sources rfl hbatch hlater
    rw [after_state_of_batch settings catalog sizeLimit excluded around hbatch hlater]
    exact ⟨rfl, scanBatch_state_eq_or around _ stop sources⟩
  broken := by
    rintro before later rfl hlater
    have hbroken : Step.brokenBatch.batch? around.disk excluded = some .broken := rfl
    exact after_state_of_batch settings catalog sizeLimit excluded around hbroken hlater

/-- In every run of a new scanner, the matcher stays the one of the settings, each step is answered as by a new scanner
with the settings that were supplied last, and the state behind it tells of the last batch alone: a scan of paths that
cannot be looked up is none, nor are the scan of a single source, the listing of paths, the languages and new settings,
be they granted or turned down. -/
theorem run_forgets (history later : List Step) (step : Step) :
    ((new settings catalog sizeLimit excluded).after around history).InStep ∧
      ∃ state, ((new settings catalog sizeLimit excluded).run around
          (history ++ step :: later))[history.length]? =
            some (((new (lastSettings settings history) catalog sizeLimit excluded).perform around step).1,
              state) ∧
        TellsLastBatch settings catalog sizeLimit excluded around (history ++ [step]) state := by
  refine ⟨(inStep_new settings catalog sizeLimit excluded).after around history, _, ?_,
    tellsLastBatch_after settings catalog sizeLimit excluded around (history ++ [step])⟩
  rw [run_getElem?, after_eq, perform_fst_withState]

end

theorem collect_of_tooLongName :
    (⟨.folder [], []⟩ : Disk).collect [] [List.replicate 256 'a'] = .error (.nameTooLong (List.replicate 256 'a')) := by
  decide +kernel

/-- A run that begins with a scan of a path with too long a name: the scan fails before there is a batch, and the
scanner is still idle. A batch that is then broken off leaves it scanning. -/
theorem run_of_tooLongName :
    (new Settings.builtin Catalog.builtin 100 []).run ⟨⟨.folder [], []⟩, .whole 0⟩
        [.scanPaths [List.replicate 256 'a'], .brokenBatch] =
      [(.batch (.error (.nameTooLong (List.replicate 256 'a'))), .idle), (.broken, .scanning)] := by
  have hnone : (.scanPaths [List.replicate 256 'a'] : Step).batch? ⟨.folder [], []⟩ [] = none := by
    rw [Step.batch?, collect_of_tooLongName]
    rfl
  have hstate : ((new Settings.builtin Catalog.builtin 100 []).perform ⟨⟨.folder [], []⟩, .whole 0⟩
      (.scanPaths [List.replicate 256 'a'])).2.state = .idle :=
    perform_state_of_no_batch hnone
  rw [run_cons, hstate, perform_scanPaths_fst, scanPaths_eq, new, collect_of_tooLongName]
  rfl

end Wording.Scanner
