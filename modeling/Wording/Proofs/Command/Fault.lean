import Wording.Plain.Platform
import Wording.Proofs.Command.Outcome
import Wording.Proofs.Configuration.Fault
import Wording.Proofs.Text.Lines

/-! # How the configuration ends a run

On every platform, a run is ended by a fault of its configuration only when the loading fails with something else than a
refusal. With a settings file at hand, that never happens exactly when the bytes of the file are a document.

Everything behind the loading is shown to raise faults of its own alone: looking up paths, making a document and
printing it are told apart from the loading by the faults that they can end in (`Outcome.EndsLater`, `carryOut_spares`,
`showTerms_spares`). So a run raises a fault of the configuration exactly if the loading does, and the loading does
exactly if it is neither refused nor a success; what the bytes of the file have to do with that is proved where the
loading is.

The run that shows the terms then still rests on what it prints: on the seconds of a fix, which the line below the table
writes, and on the console, which takes the words of terms for markup. Its condition, `ShowsTerms`, is therefore stated
on the platform at hand.
-/

set_option autoImplicit false

namespace Wording.Command

open Attempt (FailsWith failsWith_ok failsWith_error_iff failsWith_bind_iff failsWith_mapError_iff)

variable {p : Platform} {around : Surroundings} {disk : Disk} {e : Environment} {named : Option Text}

/-! ## The loading -/

/-- A fault of a configuration goes through a run if it is no refusal. -/
theorem ofConfigurationError_eq_raise_iff {f : ConfigurationError} {fault : Fault} :
    Stop.ofConfigurationError f = .raise fault ↔ ¬ f.IsRefusal ∧ .configuration f = fault := by
  cases f with
  | refused reason =>
    cases reason with
    | unwritable why => simp only [Stop.ofConfigurationError, Stop.raise.injEq, ConfigurationError.IsRefusal,
        SettingsError.IsRefusal, not_false_eq_true, true_and]
    | _ => exact iff_of_false nofun fun h => h.1 trivial
  | _ => simp only [Stop.ofConfigurationError, Stop.raise.injEq, ConfigurationError.IsRefusal, not_false_eq_true,
      true_and]

/-- What the loading raises is a fault of the configuration that is no refusal. -/
theorem load_eq_raise_iff {fault : Fault} :
    p.load disk e named = .error (.raise fault) ↔
      ∃ f, Configuration.load p.reader disk e named = .error f ∧ ¬ f.IsRefusal ∧ .configuration f = fault := by
  simp only [Platform.load, Attempt.mapError_eq_error_iff, ofConfigurationError_eq_raise_iff]

/-- The loading raises nothing exactly if it fails with refusals only. -/
theorem load_ne_raise_iff :
    (∀ fault, p.load disk e named ≠ .error (.raise fault)) ↔
      FailsWith ConfigurationError.IsRefusal (Configuration.load p.reader disk e named) := by
  simp only [ne_eq, load_eq_raise_iff, FailsWith, not_exists, not_and]
  constructor
  · intro h f hf
    by_contra hrefusal
    exact h _ f hf hrefusal rfl
  · intro h fault f hf hrefusal
    exact absurd (h f hf) hrefusal

theorem load_eq_ok_iff {c : Configuration} :
    p.load disk e named = .ok c ↔ Configuration.load p.reader disk e named = .ok c :=
  Attempt.mapError_eq_ok_iff

/-! ## What is no fault of the configuration -/

/-- That a fault is none of a configuration. -/
def Fault.IsLater : Fault → Prop
  | .configuration _ => False
  | _ => True

/-- That what stops a command is no fault of a configuration. -/
def Stop.IsLater : Stop → Prop
  | .raise fault => fault.IsLater
  | .complaint _ => True

/-- That a run raises no fault of a configuration. -/
def Outcome.EndsLater (o : Outcome) : Prop := ∀ fault, o.ending = .raised fault → fault.IsLater

/-- That neither the reason that an attempt fails for nor what the run raises that it comes to is a fault of a
configuration. -/
def SparesConfiguration {Reason : Type} (later : Reason → Prop) (attempt : Except Reason Outcome) : Prop :=
  FailsWith later attempt ∧ ∀ o, attempt = .ok o → o.EndsLater

theorem sparesConfiguration_ok {Reason : Type} {later : Reason → Prop} {o : Outcome} (h : o.EndsLater) :
    SparesConfiguration later (.ok o) :=
  ⟨failsWith_ok o, fun _ ho => by cases ho; exact h⟩

theorem sparesConfiguration_error {Reason : Type} {later : Reason → Prop} {reason : Reason} (h : later reason) :
    SparesConfiguration later (.error reason) :=
  ⟨failsWith_error_iff.mpr h, nofun⟩

theorem sparesConfiguration_bind {Reason α : Type} {later : Reason → Prop} {attempt : Except Reason α}
    {next : α → Except Reason Outcome} (hfirst : FailsWith later attempt)
    (hnext : ∀ a, SparesConfiguration later (next a)) : SparesConfiguration later (attempt >>= next) := by
  refine ⟨failsWith_bind_iff.mpr ⟨hfirst, fun a _ => (hnext a).1⟩, fun o ho => ?_⟩
  obtain ⟨a, -, ha⟩ := Attempt.bind_eq_ok_iff.mp ho
  exact (hnext a).2 o ha

theorem SparesConfiguration.raise {attempt : Except Fault Outcome} (h : SparesConfiguration Fault.IsLater attempt) :
    SparesConfiguration Stop.IsLater (attempt.mapError .raise) :=
  ⟨failsWith_mapError_iff.mpr h.1, fun o ho => h.2 o (Attempt.mapError_eq_ok_iff.mp ho)⟩

theorem failsWith_printed (channel : Channel) (making : Console.Making) :
    FailsWith Fault.IsLater (p.printed channel making) := by
  refine failsWith_bind_iff.mpr ⟨failsWith_mapError_iff.mpr fun _ _ => trivial, fun what _ => ?_⟩
  exact failsWith_mapError_iff.mpr fun _ _ => trivial

theorem endsLater_of_printing {o : Outcome} {channel : Channel} {makings : List Console.Making} {code : Nat}
    (h : o.ending = (p.printAll channel makings).ending code) : o.EndsLater := by
  intro fault hfault
  rw [h, ending_eq_raised_iff] at hfault
  obtain ⟨making, -, hprinted⟩ := exists_of_printAll_fault hfault
  exact failsWith_printed channel making fault hprinted

section Request

variable (r : ScanRequest)

theorem failsWith_documentPath (kind : Export.Kind) (output : Text) :
    FailsWith Fault.IsLater (ScanRequest.documentPath around kind output) := by
  refine failsWith_bind_iff.mpr ⟨failsWith_mapError_iff.mpr fun _ _ => trivial, fun isFolder _ => ?_⟩
  split
  · exact failsWith_bind_iff.mpr ⟨failsWith_mapError_iff.mpr fun _ _ => trivial, fun _ _ => failsWith_ok _⟩
  · exact failsWith_ok _

/-- To show a report as a document raises no fault of a configuration. -/
theorem documentOutcome_spares (kind : Export.Kind) (b : BatchReport) :
    SparesConfiguration Fault.IsLater (r.documentOutcome p around kind b) := by
  rw [ScanRequest.documentOutcome]
  cases kind.document b with
  | error fault => exact sparesConfiguration_error trivial
  | ok text =>
    simp only [Except.mapError, bind, Except.bind]
    split
    · cases p.echo text with
      | error failure => exact sparesConfiguration_error trivial
      | ok bytes => exact sparesConfiguration_ok nofun
    · cases hpath : ScanRequest.documentPath around kind r.output with
      | error fault => exact sparesConfiguration_error (failsWith_documentPath _ _ _ hpath)
      | ok path =>
        dsimp only
        cases around.disk.writeFault? path with
        | some fault => exact sparesConfiguration_error trivial
        | none => exact sparesConfiguration_ok (endsLater_of_printing rfl)

theorem outcome_spares (b : BatchReport) : SparesConfiguration Fault.IsLater (r.outcome p around b) := by
  rw [ScanRequest.outcome]
  split
  · exact sparesConfiguration_ok (endsLater_of_printing rfl)
  · exact documentOutcome_spares r _ b

/-- To scan and to show the report raises no fault of a configuration. -/
theorem scanAndShow_spares (s : Scanner) : SparesConfiguration Stop.IsLater (r.scanAndShow p around s) :=
  sparesConfiguration_bind (failsWith_mapError_iff.mpr fun _ _ => trivial) fun scanned =>
    (outcome_spares r scanned.1).raise

/-- What a scan does with its configuration raises no fault of it. -/
theorem carryOut_spares (c : Configuration) : SparesConfiguration Stop.IsLater (r.carryOut p around c) := by
  refine sparesConfiguration_bind (failsWith_mapError_iff.mpr fun reason _ => ?_) (scanAndShow_spares r)
  cases reason <;> trivial

end Request

/-- To show the terms of a configuration raises no fault of it. -/
theorem showTerms_spares (c : Configuration) : SparesConfiguration Stop.IsLater (.ok (showTerms p c)) :=
  sparesConfiguration_ok (endsLater_of_printing rfl)

/-- A command that goes on with the configuration and raises no fault of it is ended by one exactly if the loading
raises it. -/
theorem settle_load_raises_iff {next : Configuration → Except Stop Outcome}
    (hnext : ∀ c, SparesConfiguration Stop.IsLater (next c)) {f : ConfigurationError} :
    (p.settle (p.load disk e named >>= next)).ending = .raised (.configuration f) ↔
      p.load disk e named = .error (.raise (.configuration f)) := by
  rw [settle_eq_raised_iff, Attempt.bind_eq_error_iff]
  constructor
  · rintro ((h | ⟨c, -, h⟩) | ⟨o, h, hending⟩)
    · exact h
    · exact absurd ((hnext c).1 _ h) id
    · obtain ⟨c, -, hc⟩ := Attempt.bind_eq_ok_iff.mp h
      exact absurd ((hnext c).2 o hc _ hending) id
  · exact fun h => .inl (.inl h)

/-- A scan is ended by a fault of its configuration exactly if the loading raises it. -/
theorem runScan_raises_iff {r : ScanRequest} {f : ConfigurationError} :
    (p.settle (runScan p around e named r)).ending = .raised (.configuration f) ↔
      p.load around.disk e named = .error (.raise (.configuration f)) :=
  settle_load_raises_iff (carryOut_spares r)

/-- The run that shows the terms is ended by a fault of its configuration exactly if the loading raises it. -/
theorem runTerms_raises_iff {f : ConfigurationError} :
    (p.settle (runTerms p disk e named)).ending = .raised (.configuration f) ↔
      p.load disk e named = .error (.raise (.configuration f)) :=
  settle_load_raises_iff showTerms_spares

/-! ## The run that shows the terms -/

/-- That a platform shows the terms of settings: the seconds of a fix have few enough digits to be written, and the
console prints the table and the line below it. -/
def ShowsTerms (p : Platform) (s : Settings) : Prop :=
  (∃ line, Console.modeLine s = .ok line ∧ ∃ bytes, p.print .output (.text line) = .ok bytes) ∧
    ∃ bytes, p.print .output (.table ⟨"Biased terms".toList, Console.termColumns, s.terms.map Console.termRow⟩) =
      .ok bytes

theorem printAll_terms_fault_iff {s : Settings} :
    (p.printAll .output (Console.terms s)).fault = none ↔ ShowsTerms p s := by
  simp only [printAll_fault_eq_none_iff, Console.terms, List.forall_mem_cons, List.not_mem_nil, false_implies,
    implies_true, and_true, Platform.Prints, printed_eq_ok_iff, Console.textOf, Attempt.map_eq_ok_iff, Except.ok.injEq,
    ShowsTerms]
  constructor
  · rintro ⟨⟨bytes, _, rfl, htable⟩, more, _, ⟨line, hline, rfl⟩, hprinted⟩
    exact ⟨⟨line, hline, more, hprinted⟩, bytes, htable⟩
  · rintro ⟨⟨line, hline, more, hprinted⟩, bytes, htable⟩
    exact ⟨⟨bytes, _, rfl, htable⟩, more, _, ⟨line, hline, rfl⟩, hprinted⟩

/-- A run that shows the terms ends in good order exactly if the loading raises nothing and what loads is shown. -/
theorem runTerms_exits_iff :
    (∃ code, (p.settle (runTerms p disk e named)).ending = .exit code) ↔
      (∀ fault, p.load disk e named ≠ .error (.raise fault)) ∧
        ∀ c, Configuration.load p.reader disk e named = .ok c → ShowsTerms p c.settings := by
  simp only [← load_eq_ok_iff]
  rw [runTerms]
  cases p.load disk e named with
  | error stop =>
    cases stop with
    | complaint c => exact iff_of_true ⟨c.exitCode, rfl⟩ ⟨nofun, nofun⟩
    | raise fault => exact iff_of_false nofun fun h => h.1 fault rfl
  | ok c =>
    simp only [← printAll_terms_fault_iff, Except.ok.injEq, forall_eq', ne_eq, reduceCtorEq, not_false_eq_true,
      implies_true, true_and]
    constructor
    · rintro ⟨code, hcode⟩
      exact (ending_eq_exit_iff.mp hcode).1
    · intro h
      exact ⟨0, ending_eq_exit_iff.mpr ⟨h, rfl⟩⟩

/-! ## Which settings files end runs -/

/-- A run is ended by a fault of its configuration only if the loading fails with it, for the settings file that is
named in the call, if one is. -/
theorem exists_of_run_raises {args : List Text} {f : ConfigurationError}
    (h : (run p around e args).ending = .raised (.configuration f)) :
    ∃ named, Configuration.load p.reader around.disk e named = .error f ∧ ¬ f.IsRefusal := by
  have hloads : ∀ named, p.load around.disk e named = .error (.raise (.configuration f)) →
      ∃ named, Configuration.load p.reader around.disk e named = .error f ∧ ¬ f.IsRefusal := by
    intro named hload
    obtain ⟨_, hfails, hrefusal, ⟨⟩⟩ := load_eq_raise_iff.mp hload
    exact ⟨named, hfails, hrefusal⟩
  rw [run] at h
  split at h
  · cases h
  · cases h
  next named r hcall => exact hloads named (runScan_raises_iff.mp h)
  next named hcall => exact hloads named (runTerms_raises_iff.mp h)

/-- A run is ended by a fault of its configuration only if the loading of it fails with something else than a refusal.
If there is a settings file, then, whatever the variables of the environment say, the loading gives a configuration or a
complaint exactly if the bytes of the file are a document; and exactly then no scan is ended by a fault of its
configuration. The run that shows the terms ends in good order exactly if the bytes are a document and the settings that
come of it, if they are not refused, can be shown. -/
theorem faults_of_configuration (p : Platform) (around : Surroundings) (e : Environment) :
    (∀ args f, (run p around e args).ending = .raised (.configuration f) →
        ∃ named, Configuration.load p.reader around.disk e named = .error f ∧ ¬ f.IsRefusal) ∧
      ∀ named bytes, Configuration.AreOfSettingsFile around.disk e named bytes →
        ((∀ fault, p.load around.disk e named ≠ .error (.raise fault)) ↔
          Configuration.AreDocument p.reader bytes) ∧
        (∀ args r, p.call around.disk e args = .scan named r →
          ((∀ f, (run p around e args).ending ≠ .raised (.configuration f)) ↔
            Configuration.AreDocument p.reader bytes)) ∧
        ∀ args, p.call around.disk e args = .terms named →
          ((∃ code, (run p around e args).ending = .exit code) ↔
            Configuration.AreDocument p.reader bytes ∧
              ∀ c, Configuration.load p.reader around.disk e named = .ok c → ShowsTerms p c.settings) := by
  refine ⟨fun args f h => exists_of_run_raises h, fun named bytes hfile => ?_⟩
  have hload : (∀ fault, p.load around.disk e named ≠ .error (.raise fault)) ↔
      Configuration.AreDocument p.reader bytes :=
    load_ne_raise_iff.trans (Configuration.failsWith_load_iff hfile)
  refine ⟨hload, fun args r hcall => ?_, fun args hcall => ?_⟩
  · rw [← hload, run, hcall]
    simp only [ne_eq, runScan_raises_iff]
    refine ⟨fun h fault hfault => ?_, fun h f => h _⟩
    obtain ⟨f, -, -, rfl⟩ := load_eq_raise_iff.mp hfault
    exact h f hfault
  · rw [← hload, run, hcall]
    exact runTerms_exits_iff

/-- The surroundings of a run with a settings file of some bytes. -/
def settingsAround (bytes : List UInt8) : Surroundings := ⟨⟨.folder [("s.yaml".toList, .file bytes)], []⟩, .whole 0⟩

/-- An environment in which nothing is given but the home folder. -/
def plainEnvironment : Environment := ⟨[("HOME", "/root".toList)], none⟩

/-- The words that ask for the terms of the settings file. -/
def wordsForTerms : List Text := ["--settings", "s.yaml", "terms"].map String.toList

theorem areOfSettingsFile_settingsAround (bytes : List UInt8) :
    Configuration.AreOfSettingsFile (settingsAround bytes).disk plainEnvironment (some "s.yaml".toList) bytes :=
  ⟨_, _, rfl, rfl, rfl⟩

/-- A settings file that gives the time for a fix. -/
def timeFile : List UInt8 := Text.encodeUtf8 "time_per_fix: 45".toList

/-- Settings whose seconds can be written are shown on the plain platform, which prints everything. -/
theorem showsTerms_plain {s : Settings} (h : Text.isWritable s.timePerFix = true) : ShowsTerms Plain.platform s := by
  have hline : ∃ line, Console.modeLine s = .ok line := by
    rw [Console.modeLine, integerText, Text.writeInt, if_pos h]
    exact ⟨_, rfl⟩
  obtain ⟨line, hline⟩ := hline
  exact ⟨⟨line, hline, _, rfl⟩, _, rfl⟩

/-- The wording of the fault of a configuration that a run is ended by, if it is ended by one. -/
def configurationFault? : Ending → Option Text
  | .raised (.configuration f) => some f.message
  | _ => none

theorem exists_of_configurationFault? {ending : Ending} {message : Text}
    (h : configurationFault? ending = some message) :
    ∃ f, ending = .raised (.configuration f) ∧ f.message = message := by
  unfold configurationFault? at h
  split at h
  next f => exact ⟨f, rfl, Option.some.inj h⟩
  next => cases h

/-- With a settings file that gives the time for a fix, the run that shows the terms ends in good order; a file with a
byte that is not UTF-8 cannot be loaded, and is not refused either. -/
theorem faults_of_configuration_files :
    (∃ code, (run Plain.platform (settingsAround timeFile) plainEnvironment wordsForTerms).ending = .exit code) ∧
      ∃ named f, Configuration.load Plain.platform.reader (settingsAround [0xFF]).disk plainEnvironment named =
        .error f ∧ ¬ f.IsRefusal := by
  constructor
  · have hwritable : (Configuration.load Plain.platform.reader (settingsAround timeFile).disk plainEnvironment
        (some "s.yaml".toList)).toOption.map (fun c => Text.isWritable c.settings.timePerFix) = some true := by
      decide +kernel
    obtain ⟨c, hload, hc⟩ := Attempt.exists_eq_ok_of_toOption hwritable
    have hasked : (Plain.platform.call (settingsAround timeFile).disk plainEnvironment wordsForTerms).asked? =
        some (some "s.yaml".toList, none) := by
      decide +kernel
    obtain ⟨horder, -, hterms⟩ := (faults_of_configuration Plain.platform (settingsAround timeFile)
      plainEnvironment).2 _ _ (areOfSettingsFile_settingsAround timeFile)
    rw [load_eq_ok_iff.mpr hload] at horder
    refine (hterms wordsForTerms (eq_terms_of_asked? hasked)).mpr ⟨horder.mp nofun, fun other hother => ?_⟩
    rw [hload] at hother
    cases hother
    exact showsTerms_plain hc
  · have hmessage : configurationFault? (run Plain.platform (settingsAround [0xFF]) plainEnvironment
        wordsForTerms).ending =
          some "'utf-8' codec can't decode byte 0xff in position 0: invalid start byte".toList := by
      decide +kernel
    obtain ⟨f, hrun, -⟩ := exists_of_configurationFault? hmessage
    obtain ⟨named, hfails⟩ := (faults_of_configuration Plain.platform (settingsAround [0xFF])
      plainEnvironment).1 _ _ hrun
    exact ⟨named, f, hfails⟩

/-- With a settings file that holds a byte that is not UTF-8, and with one whose markup is not well formed, the run that
shows the terms is ended by a fault of its configuration that is no refusal. -/
theorem run_of_brokenSettings :
    (∃ f, (run Plain.platform (settingsAround [0xFF]) plainEnvironment wordsForTerms).ending =
        .raised (.configuration f) ∧
      f.message = "'utf-8' codec can't decode byte 0xff in position 0: invalid start byte".toList) ∧
      ∃ f, (run Plain.platform (settingsAround (Text.encodeUtf8 "a: [".toList)) plainEnvironment
          wordsForTerms).ending = .raised (.configuration f) ∧
        f.message = "malformed document".toList :=
  ⟨exists_of_configurationFault? (by decide +kernel), exists_of_configurationFault? (by decide +kernel)⟩

end Wording.Command
