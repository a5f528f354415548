import Wording.Plain.Platform
import Wording.Proofs.Command.Outcome
import Wording.Proofs.Configuration.Load

/-! # What a scan runs with

Four layers say something of what a scan runs with, on every platform: the options of the request, the variables of the
environment, the settings file, and the built-in values. What is said first prevails; but options only ever turn kinds
of tokens off, terms come from the file, and the size limit from its variable.

The layers are taken one at a time, from the innermost out: the settings that a document describes over the built-in
ones, what the environment overrides of them, and what the request makes of these. Each says which field it takes from
where (`Layered`, `Overridden`, `Applies`), and `prevails_of_layers` puts three such choices together for one value.
That the seconds of a request are positive is a premise: whoever understands the command line lets no others pass.
-/

set_option autoImplicit false

namespace Wording.Command

open Wording.Configuration (Writes Says TakesVariable)

variable {reader : DocumentReader} {disk : Disk} {e : Environment} {named : Option Text} {r : ScanRequest}
  {c : Configuration}

/-! ## The settings file -/

/-- That a path is that of the settings file: the one that is named, and else `settings.yaml` in the folder for
configurations if it is a file there. -/
def FindsSettings (disk : Disk) (e : Environment) (named path : Option Text) : Prop :=
  match named with
  | some text => path = some (Path.plain text)
  | none =>
    ∃ folder, Configuration.folderOf e = .ok folder ∧
      let candidate := Path.child folder "settings.yaml".toList
      ((∃ bytes, disk.at? candidate = .ok (.file bytes)) ∧ path = some candidate) ∨
        ((∀ bytes, disk.at? candidate ≠ .ok (.file bytes)) ∧ path = none)

/-- That entries are those of the settings file at a path; without a file there are none, and none in a document that
holds nothing. -/
def AreEntriesAt (reader : DocumentReader) (disk : Disk) (path : Option Text) (entries : List (Value × Value)) : Prop :=
  match path with
  | none => entries = []
  | some path =>
    ∃ t v, disk.readText path = .ok t ∧ reader.read t = .ok v ∧
      (v.opened = .map entries ∨ (v.opened = .null ∧ entries = []))

theorem isFileAt_cases {path : Text} {isThere : Bool} (h : disk.isFileAt path = .ok isThere) :
    (isThere = true ∧ ∃ bytes, disk.at? path = .ok (.file bytes)) ∨
      (isThere = false ∧ ∀ bytes, disk.at? path ≠ .ok (.file bytes)) := by
  unfold Disk.isFileAt Disk.holdsAt at h
  split at h
  next found hfound =>
    cases h
    cases found with
    | file bytes => exact .inl ⟨rfl, bytes, hfound⟩
    | folder entries => exact .inr ⟨rfl, fun bytes => by rw [hfound]; exact nofun⟩
  next => cases h
  next hdead =>
    cases h
    exact .inr ⟨rfl, fun bytes => by rw [hdead]; exact nofun⟩

/-- The settings file of a configuration that loads is found by its name, or in the folder. -/
theorem findsSettings_of_holds (h : Configuration.Holds reader disk e named c) :
    FindsSettings disk e named c.settingsPath := by
  have hpath := h.settingsPath
  unfold Configuration.settingsPath? at hpath
  cases named with
  | some text =>
    exact (Except.ok.inj hpath).symm
  | none =>
    refine ⟨c.folder, h.folder, ?_⟩
    obtain ⟨isThere, hthere, heq⟩ := Attempt.bind_eq_ok_iff.mp hpath
    obtain ⟨rfl, hfile⟩ | ⟨rfl, hnone⟩ := isFileAt_cases (Attempt.mapError_eq_ok_iff.mp hthere)
    · exact .inl ⟨hfile, (Except.ok.inj heq).symm⟩
    · exact .inr ⟨hnone, (Except.ok.inj heq).symm⟩

/-- Settings of a file take each field from its entries, or from the built-in settings. -/
theorem exists_entries_of_ofFile {path : Option Text} {s : Settings} (h : Configuration.OfFile reader disk path s) :
    ∃ entries, AreEntriesAt reader disk path entries ∧ Settings.Layered reader.rooms .builtin entries s := by
  have hbuiltin : Settings.Layered reader.rooms .builtin [] .builtin :=
    Settings.layer_eq_ok_iff.mp (Settings.layer_nil _ .builtin)
  cases path with
  | none =>
    cases h
    exact ⟨[], rfl, hbuiltin⟩
  | some path =>
    obtain ⟨t, v, ht, hv, ⟨hnull, rfl⟩ | ⟨entries, hmap, hlayered⟩⟩ := h
    · exact ⟨[], ⟨t, v, ht, hv, .inr ⟨hnull, rfl⟩⟩, hbuiltin⟩
    · exact ⟨entries, ⟨t, v, ht, hv, .inl hmap⟩, hlayered⟩

/-! ## The request -/

/-- The settings of the scanner for a request are those of the configuration, with what the request gives in their
place; a kind of tokens that the request leaves out does not count. -/
structure Applies (r : ScanRequest) (base s : Settings) : Prop where
  terms : s.terms = base.terms
  timePerFix : s.timePerFix = r.timePerFix.getD base.timePerFix
  caseSensitive : s.caseSensitive = r.caseSensitive.getD base.caseSensitive
  includeIdentifiers : s.includeIdentifiers = (base.includeIdentifiers && !r.skipsIdentifiers)
  includeStrings : s.includeStrings = (base.includeStrings && !r.skipsStrings)
  includeComments : s.includeComments = (base.includeComments && !r.skipsComments)

theorem getD_skips (skips flag : Bool) : (if skips then some false else none).getD flag = (flag && !skips) := by
  cases skips <;> cases flag <;> rfl

/-- A request with positive seconds makes a scanner of every configuration. -/
theorem exists_scanner (hseconds : ∀ n, r.timePerFix = some n → 0 < n) (c : Configuration) :
    ∃ s, r.scanner c = .ok (.new s .builtin c.sizeLimit r.excluded) ∧ Applies r c.settings s := by
  have hpositive : 0 < r.timePerFix.getD c.settings.timePerFix := by
    cases htime : r.timePerFix with
    | none => exact c.settings.positive
    | some n => exact hseconds n htime
  let s : Settings :=
    { terms := c.settings.terms
      timePerFix := r.timePerFix.getD c.settings.timePerFix
      includeIdentifiers := c.settings.includeIdentifiers && !r.skipsIdentifiers
      includeStrings := c.settings.includeStrings && !r.skipsStrings
      includeComments := c.settings.includeComments && !r.skipsComments
      caseSensitive := r.caseSensitive.getD c.settings.caseSensitive
      positive := hpositive
      distinct := c.settings.distinct }
  have hreplace : c.settings.replace r.change = .ok s := by
    simp only [Settings.replace, ScanRequest.change, Settings.make_eq_ok_iff, getD_skips, Option.getD_none, s, and_self]
  refine ⟨s, ?_, ⟨rfl, rfl, rfl, rfl, rfl, rfl⟩⟩
  rw [ScanRequest.scanner, hreplace]
  rfl

/-! ## Layers -/

/-- That a result is what an option of the request says; without one, what a variable writes; without either, what an
entry of the settings file holds; and else the built-in value. -/
def Prevails {α : Type} (option : Option α) (given : Option Text) (writes : Text → α → Prop) (entry : Option Value)
    (holds : Value → α → Prop) (builtin result : α) : Prop :=
  match option, given, entry with
  | some a, _, _ => result = a
  | none, some text, _ => writes text result
  | none, none, some v => holds v result
  | none, none, none => result = builtin

/-- That a kind of tokens counts exactly if the entry of the settings file for it, or the built-in value without one,
says so, and the request does not leave it out. -/
def CountsUnless (skips : Bool) (entry : Option Value) (builtin result : Bool) : Prop :=
  ∃ fromFile, Settings.Takes entry (fun v b => v = .bool b) builtin fromFile ∧
    (result = true ↔ fromFile = true ∧ skips = false)

/-- That a scanner has each of its values from the layer that prevails: the options of a request, the variables of an
environment, the entries of a settings file, or the built-in values. Its matcher is the one of its settings. -/
structure RunsWith (rooms : Rooms) (r : ScanRequest) (e : Environment) (entries : List (Value × Value)) (s : Scanner) :
    Prop where
  timePerFix : Prevails r.timePerFix (e.value? "BIASSCAN_TIME_PER_FIX") Writes (Value.lookup entries "time_per_fix")
    (fun v n => v = .int n) Settings.builtin.timePerFix s.settings.timePerFix
  caseSensitive : Prevails r.caseSensitive (e.value? "BIASSCAN_CASE_SENSITIVE") Says
    (Value.lookup entries "case_sensitive") (fun v b => v = .bool b) Settings.builtin.caseSensitive
    s.settings.caseSensitive
  includeIdentifiers : CountsUnless r.skipsIdentifiers (Value.lookup entries "include_identifiers")
    Settings.builtin.includeIdentifiers s.settings.includeIdentifiers
  includeStrings : CountsUnless r.skipsStrings (Value.lookup entries "include_strings")
    Settings.builtin.includeStrings s.settings.includeStrings
  includeComments : CountsUnless r.skipsComments (Value.lookup entries "include_comments")
    Settings.builtin.includeComments s.settings.includeComments
  terms : Settings.TakesTerms rooms entries Settings.builtin.terms s.settings.terms
  sizeLimit : TakesVariable e "BIASSCAN_MAX_FILE_SIZE" Writes Scanner.builtinSizeLimit s.sizeLimit
  excluded : s.excluded = r.excluded
  inStep : s.InStep

/-- What is taken from three layers, one over the other, is what the first of them says that says anything. -/
theorem prevails_of_layers {α : Type} {option : Option α} {name : String} {writes : Text → α → Prop}
    {entry : Option Value} {holds : Value → α → Prop} {builtin fromFile loaded result : α}
    (hfile : Settings.Takes entry holds builtin fromFile) (hvariable : TakesVariable e name writes fromFile loaded)
    (hoption : result = option.getD loaded) :
    Prevails option (e.value? name) writes entry holds builtin result := by
  subst hoption
  unfold TakesVariable at hvariable
  unfold Settings.Takes at hfile
  unfold Prevails
  cases option with
  | some a => rfl
  | none =>
    cases hvalue : e.value? name with
    | some text =>
      rw [hvalue] at hvariable
      exact hvariable
    | none =>
      rw [hvalue] at hvariable
      subst hvariable
      cases entry <;> exact hfile

/-- A flag of a file counts unless the request leaves it out. -/
theorem countsUnless_of_takes {skips : Bool} {entry : Option Value} {builtin fromFile result : Bool}
    (h : Settings.Takes entry (fun v b => v = .bool b) builtin fromFile) (hresult : result = (fromFile && !skips)) :
    CountsUnless skips entry builtin result := by
  refine ⟨fromFile, h, ?_⟩
  rw [hresult, Bool.and_eq_true, Bool.not_eq_true']

/-- The scanner of a request under a configuration that loads has each value from the layer that prevails. -/
theorem exists_runsWith (hload : Configuration.load reader disk e named = .ok c) {s : Settings}
    (happlies : Applies r c.settings s) :
    ∃ path entries, FindsSettings disk e named path ∧ AreEntriesAt reader disk path entries ∧
      RunsWith reader.rooms r e entries (.new s .builtin c.sizeLimit r.excluded) := by
  have hholds := Configuration.load_eq_ok_iff.mp hload
  obtain ⟨base, hfile, hover⟩ := hholds.settings
  obtain ⟨entries, hentries, hlayered⟩ := exists_entries_of_ofFile hfile
  refine ⟨c.settingsPath, entries, findsSettings_of_holds hholds, hentries, ?_⟩
  exact
    { timePerFix := prevails_of_layers hlayered.timePerFix hover.timePerFix happlies.timePerFix
      caseSensitive := prevails_of_layers hlayered.caseSensitive hover.caseSensitive happlies.caseSensitive
      includeIdentifiers := countsUnless_of_takes (hover.includeIdentifiers ▸ hlayered.includeIdentifiers)
        happlies.includeIdentifiers
      includeStrings := countsUnless_of_takes (hover.includeStrings ▸ hlayered.includeStrings) happlies.includeStrings
      includeComments := countsUnless_of_takes (hover.includeComments ▸ hlayered.includeComments)
        happlies.includeComments
      terms := (happlies.terms.trans hover.terms).symm ▸ hlayered.terms
      sizeLimit := hholds.sizeLimit
      excluded := rfl
      inStep := Scanner.inStep_new _ _ _ _ }

/-- A call for a scan with positive seconds, if any, and with a configuration that loads, scans with a scanner that has
each of its values from the layer that prevails, and then shows the report. -/
theorem precedence_of_run (p : Platform) (around : Surroundings) {args : List Text}
    (hcall : p.call around.disk e args = .scan named r) (hseconds : ∀ n, r.timePerFix = some n → 0 < n)
    (hload : Configuration.load p.reader around.disk e named = .ok c) :
    ∃ s, run p around e args = p.settle (r.scanAndShow p around s) ∧
      ∃ path entries, FindsSettings around.disk e named path ∧ AreEntriesAt p.reader around.disk path entries ∧
        RunsWith p.reader.rooms r e entries s := by
  obtain ⟨s, hscanner, happlies⟩ := exists_scanner hseconds c
  refine ⟨.new s .builtin c.sizeLimit r.excluded, ?_, exists_runsWith hload happlies⟩
  have hplatform : p.load around.disk e named = .ok c := Attempt.mapError_eq_ok_iff.mpr hload
  rw [run, hcall]
  dsimp only
  rw [runScan_of_load hplatform, carryOut_of_scanner hscanner]

/-- A disk with a settings file below a home folder, and a working folder with a file to scan. -/
def layeredAround : Surroundings where
  disk :=
    { root :=
        .folder
          [("home".toList, .folder [(".config".toList, .folder [("biasscan".toList, .folder
              [("settings.yaml".toList,
                .file (Text.encodeUtf8 "time_per_fix: 45\ncase_sensitive: true\ninclude_comments: no\n".toList))])])]),
            ("work".toList, .folder [("a.py".toList, .file [])])]
      workingNames := ["work".toList] }
  now := .whole 0

/-- An environment with a home folder, a time and a size limit, and with an empty variable for letter case. -/
def layeredEnvironment : Environment :=
  ⟨[("HOME", "/home".toList), ("BIASSCAN_TIME_PER_FIX", "50".toList), ("BIASSCAN_CASE_SENSITIVE", []),
    ("BIASSCAN_MAX_FILE_SIZE", "2048".toList)], none⟩

/-- Words that ask for a scan with seven seconds and without strings. -/
def layeredWords : List Text := ["scan", "--time-per-fix=7", "a.py", "--no-strings"].map String.toList

/-- The request that these words make. -/
def layeredRequest : ScanRequest where
  paths := ["a.py".toList]
  timePerFix := some 7
  skipsStrings := true

/-- The time of the request goes before that of the environment and that of the file below the home folder, and the
empty variable says nothing of letter case, so that it is as the file says. -/
theorem precedence_of_run_layered :
    ∃ s, run Plain.platform layeredAround layeredEnvironment layeredWords =
        Plain.platform.settle (layeredRequest.scanAndShow Plain.platform layeredAround s) ∧
      ∃ path entries, FindsSettings layeredAround.disk layeredEnvironment none path ∧
        AreEntriesAt Plain.platform.reader layeredAround.disk path entries ∧
        RunsWith Plain.platform.reader.rooms layeredRequest layeredEnvironment entries s := by
  have hasked : (Plain.platform.call layeredAround.disk layeredEnvironment layeredWords).asked? =
      some (none, some layeredRequest) := by
    decide +kernel
  have htime : (Configuration.load Plain.platform.reader layeredAround.disk layeredEnvironment none).toOption.map
      (fun c => (c.settings.timePerFix, c.settings.caseSensitive, c.settings.includeComments)) =
        some (50, true, false) := by
    decide +kernel
  obtain ⟨c, hload, -⟩ := Attempt.exists_eq_ok_of_toOption htime
  refine precedence_of_run Plain.platform layeredAround (eq_scan_of_asked? hasked) ?_ hload
  rintro _ ⟨⟩
  decide

end Wording.Command
