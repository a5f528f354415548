import Wording.Configuration
import Wording.Plain.Platform
import Wording.Proofs.Scan.Content
import Wording.Proofs.Settings.Layer

/-! # Configurations that load

A configuration loads exactly when its settings file can be laid over the built-in settings and the variables of the
environment say what they are asked for, and then it holds what these say. Its settings are sound; its size limit is any
integer that the environment gives.

Every variable is read in the same way: if it is there and not empty, its text must tell a value, and else what the base
holds stays. `TakesVariable` says this once for a reader of values, and integers and truth values are two such readers.
The settings file and the variables are independent of each other but for one thing: the time that a variable gives has
to be positive before there are settings to hold it, which is why `exists_load_iff` builds them in this order.
-/

set_option autoImplicit false

namespace Wording.Configuration

/-! ## What a configuration is made of -/

/-- That a result is what a variable gives, in the way that its text is read, or the base where it gives nothing. -/
def TakesVariable {α : Type} (e : Environment) (name : String) (reads : Text → α → Prop) (base result : α) : Prop :=
  match e.value? name with
  | none => result = base
  | some value => reads value result

/-- That a text writes an integer. -/
def Writes (value : Text) (n : Int) : Prop := Text.readInteger? value = some n

/-- That a text is one of the words for a truth value, in small or capital letters. -/
def Says (value : Text) (b : Bool) : Prop := Text.lower (Text.trim value) ∈ if b then trueWords else falseWords

/-- That settings are those of a settings file over the built-in ones, or the built-in ones if there is no file. -/
def OfFile (reader : DocumentReader) (disk : Disk) (path : Option Text) (s : Settings) : Prop :=
  match path with
  | none => s = .builtin
  | some path =>
    ∃ t v, disk.readText path = .ok t ∧ reader.read t = .ok v ∧ Settings.LayeredValue reader.rooms .builtin v s

/-- That settings take the time and letter case from the variables of an environment, and else are those of a base. -/
structure Overridden (e : Environment) (base s : Settings) : Prop where
  terms : s.terms = base.terms
  timePerFix : TakesVariable e "BIASSCAN_TIME_PER_FIX" Writes base.timePerFix s.timePerFix
  includeIdentifiers : s.includeIdentifiers = base.includeIdentifiers
  includeStrings : s.includeStrings = base.includeStrings
  includeComments : s.includeComments = base.includeComments
  caseSensitive : TakesVariable e "BIASSCAN_CASE_SENSITIVE" Says base.caseSensitive s.caseSensitive

/-- That a configuration holds what a settings file and the environment say: the file that is named or lies in the
folder for configurations, over the built-in settings, and over that the variables. -/
structure Holds (reader : DocumentReader) (disk : Disk) (e : Environment) (named : Option Text) (c : Configuration) :
    Prop where
  folder : folderOf e = .ok c.folder
  settingsPath : settingsPath? disk c.folder named = .ok c.settingsPath
  settings : ∃ base, OfFile reader disk c.settingsPath base ∧ Overridden e base c.settings
  sizeLimit : TakesVariable e "BIASSCAN_MAX_FILE_SIZE" Writes Scanner.builtinSizeLimit c.sizeLimit

/-- That the settings file of a configuration, if there is one, can be laid over the built-in settings. -/
def HasSoundFile (reader : DocumentReader) (disk : Disk) (e : Environment) (named : Option Text) : Prop :=
  ∃ folder path s, folderOf e = .ok folder ∧ settingsPath? disk folder named = .ok path ∧ OfFile reader disk path s

/-- That a text writes a positive integer. -/
def WritesPositive (value : Text) : Prop := ∃ n, Writes value n ∧ 0 < n

/-- That the variables of an environment say what they are asked for: a positive time, a truth value, and for the size
limit any integer. -/
structure HasSoundVariables (e : Environment) : Prop where
  timePerFix : ∀ value, e.value? "BIASSCAN_TIME_PER_FIX" = some value → WritesPositive value
  caseSensitive : ∀ value, e.value? "BIASSCAN_CASE_SENSITIVE" = some value → ∃ b, Says value b
  sizeLimit : ∀ value, e.value? "BIASSCAN_MAX_FILE_SIZE" = some value → ∃ n, Writes value n

/-! ## What loads -/

/-- A result is taken from a variable, or from the base. -/
theorem exists_given?_iff {α : Type} {e : Environment} {read : String → Text → Except SettingsError α} {name : String}
    {reads : Text → α → Prop} (h : ∀ value a, read name value = .ok a ↔ reads value a) {base result : α} :
    (∃ given, given? e read name = .ok given ∧ result = given.getD base) ↔
      TakesVariable e name reads base result := by
  rw [given?, TakesVariable]
  cases e.value? name with
  | none => simp only [Option.mapM_none, pure, Except.pure, Except.ok.injEq, exists_eq_left', Option.getD_none]
  | some value =>
    simp only [Option.mapM_some, ← h]
    cases read name value with
    | error fault => exact iff_of_false nofun nofun
    | ok a =>
      constructor
      · rintro ⟨_, ⟨⟩, rfl⟩
        rfl
      · intro h
        cases h
        exact ⟨some result, rfl, rfl⟩

theorem integerOf_eq_ok_iff {name : String} (value : Text) (n : Int) :
    integerOf name value = .ok n ↔ Writes value n :=
  Attempt.elim_eq_ok_iff

theorem booleanOf_eq_ok_iff {name : String} (value : Text) (b : Bool) :
    booleanOf name value = .ok b ↔ Says value b := by
  have hapart : ∀ word ∈ trueWords, word ∉ falseWords := by decide
  simp only [booleanOf, Says, List.contains_iff_mem]
  generalize Text.lower (Text.trim value) = word
  by_cases htrue : word ∈ trueWords
  · have hnotFalse := hapart word htrue
    cases b <;> simp [htrue, hnotFalse]
  · by_cases hfalse : word ∈ falseWords <;> cases b <;> simp [htrue, hfalse]

/-- The settings that come out of the variables over others take from each variable what it gives. -/
theorem settingsOfEnvironment_eq_ok_iff {e : Environment} {base s : Settings} :
    settingsOfEnvironment e base = .ok s ↔ Overridden e base s := by
  simp only [settingsOfEnvironment, Attempt.bind_eq_ok_iff, Settings.replace, Settings.make_eq_ok_iff,
    Option.getD_none]
  constructor
  · rintro ⟨time, htime, timed, htimed, sensitive, hsensitive, hs⟩
    exact
      { terms := hs.1.trans htimed.1
        timePerFix := (exists_given?_iff integerOf_eq_ok_iff).mp ⟨time, htime, hs.2.1.trans htimed.2.1⟩
        includeIdentifiers := hs.2.2.1.trans htimed.2.2.1
        includeStrings := hs.2.2.2.1.trans htimed.2.2.2.1
        includeComments := hs.2.2.2.2.1.trans htimed.2.2.2.2.1
        caseSensitive := (exists_given?_iff booleanOf_eq_ok_iff).mp
          ⟨sensitive, hsensitive, by rw [hs.2.2.2.2.2, htimed.2.2.2.2.2]⟩ }
  · intro h
    obtain ⟨time, htime, htimeEq⟩ := (exists_given?_iff integerOf_eq_ok_iff).mpr h.timePerFix
    obtain ⟨sensitive, hsensitive, hsensitiveEq⟩ := (exists_given?_iff booleanOf_eq_ok_iff).mpr h.caseSensitive
    exact ⟨time, htime, { base with timePerFix := s.timePerFix, positive := s.positive },
      ⟨rfl, htimeEq, rfl, rfl, rfl, rfl⟩, sensitive, hsensitive,
      ⟨h.terms, rfl, h.includeIdentifiers, h.includeStrings, h.includeComments, hsensitiveEq⟩⟩

/-- The settings of a file are those that its document describes. -/
theorem settingsOfFile_eq_ok_iff {reader : DocumentReader} {disk : Disk} {path : Option Text} {s : Settings} :
    settingsOfFile reader disk path = .ok s ↔ OfFile reader disk path s := by
  cases path with
  | none => exact ⟨fun h => by cases h; rfl, fun h => by rw [show s = .builtin from h]; rfl⟩
  | some path =>
    simp only [settingsOfFile, settingsOfText, Attempt.bind_eq_ok_iff, Attempt.mapError_eq_ok_iff,
      Settings.layerValue_eq_ok_iff, OfFile]
    constructor
    · rintro ⟨t, ht, v, hv, hs⟩
      exact ⟨t, v, ht, hv, hs⟩
    · rintro ⟨t, v, ht, hv, hs⟩
      exact ⟨t, ht, v, hv, hs⟩

/-- The size limit is taken from its variable, or it is the built-in one. -/
theorem sizeLimitOf_eq_ok_iff {e : Environment} {n : Int} :
    sizeLimitOf e = .ok n ↔
      TakesVariable e "BIASSCAN_MAX_FILE_SIZE" Writes Scanner.builtinSizeLimit n := by
  rw [← exists_given?_iff integerOf_eq_ok_iff, sizeLimitOf, Attempt.bind_eq_ok_iff]
  simp only [pure, Except.pure, Except.ok.injEq, eq_comm]

/-- The configuration that loads is the one that holds what the settings file and the environment say. -/
theorem load_eq_ok_iff {reader : DocumentReader} {disk : Disk} {e : Environment} {named : Option Text}
    {c : Configuration} : load reader disk e named = .ok c ↔ Holds reader disk e named c := by
  simp only [load, Attempt.bind_eq_ok_iff, Attempt.mapError_eq_ok_iff, settingsOfFile_eq_ok_iff,
    settingsOfEnvironment_eq_ok_iff, sizeLimitOf_eq_ok_iff]
  constructor
  · rintro ⟨folder, hfolder, path, hpath, base, hbase, s, hs, limit, hlimit, ⟨⟩⟩
    exact ⟨hfolder, hpath, ⟨base, hbase, hs⟩, hlimit⟩
  · rintro ⟨hfolder, hpath, ⟨base, hbase, hs⟩, hlimit⟩
    exact ⟨_, hfolder, _, hpath, base, hbase, _, hs, _, hlimit, rfl⟩

/-! ## When one loads, and what is true of it -/

/-- A result of which each text that a variable can give tells one can be taken from the variable or the base. -/
theorem exists_takesVariable {α : Type} {e : Environment} {name : String} {reads : Text → α → Prop}
    (h : ∀ value, e.value? name = some value → ∃ a, reads value a) (base : α) :
    ∃ a, TakesVariable e name reads base a := by
  unfold TakesVariable
  cases hvalue : e.value? name with
  | none => exact ⟨base, rfl⟩
  | some value => exact h value hvalue

theorem TakesVariable.exists_reads {α : Type} {e : Environment} {name : String} {reads : Text → α → Prop} {base a : α}
    (h : TakesVariable e name reads base a) {value : Text} (hvalue : e.value? name = some value) :
    reads value a := by
  rwa [TakesVariable, hvalue] at h

/-- Over a positive base, the integer that is taken from a variable is positive exactly when the variable gives a
positive one, if it gives any. -/
theorem TakesVariable.pos_iff {e : Environment} {name : String} {base n : Int}
    (h : TakesVariable e name Writes base n) (hbase : 0 < base) :
    0 < n ↔ ∀ value, e.value? name = some value → WritesPositive value := by
  unfold TakesVariable at h
  cases hvalue : e.value? name with
  | none =>
    rw [hvalue] at h
    exact iff_of_true (h ▸ hbase) nofun
  | some value =>
    rw [hvalue] at h
    constructor
    · rintro hn _ ⟨⟩
      exact ⟨n, h, hn⟩
    · intro hall
      obtain ⟨m, hm, hpositive⟩ := hall value rfl
      cases Option.some.inj (hm.symm.trans h)
      exact hpositive

/-- A configuration loads exactly when its settings file and the variables of the environment are in order. -/
theorem exists_load_iff {reader : DocumentReader} {disk : Disk} {e : Environment} {named : Option Text} :
    (∃ c, load reader disk e named = .ok c) ↔ HasSoundFile reader disk e named ∧ HasSoundVariables e := by
  simp only [load_eq_ok_iff]
  constructor
  · rintro ⟨c, hfolder, hpath, ⟨base, hbase, hs⟩, hlimit⟩
    exact
      ⟨⟨_, _, base, hfolder, hpath, hbase⟩,
        { timePerFix := (hs.timePerFix.pos_iff base.positive).mp c.settings.positive
          caseSensitive := fun _ hvalue => ⟨_, hs.caseSensitive.exists_reads hvalue⟩
          sizeLimit := fun _ hvalue => ⟨_, hlimit.exists_reads hvalue⟩ }⟩
  · rintro ⟨⟨folder, path, base, hfolder, hpath, hbase⟩, hvariables⟩
    have hwrites : ∀ value, e.value? "BIASSCAN_TIME_PER_FIX" = some value → ∃ n, Writes value n := fun value hvalue =>
      (hvariables.timePerFix value hvalue).imp fun _ => And.left
    -- The time has to be known before the settings, which carry that it is positive.
    obtain ⟨time, htime⟩ := exists_takesVariable hwrites base.timePerFix
    obtain ⟨sensitive, hsensitive⟩ := exists_takesVariable hvariables.caseSensitive base.caseSensitive
    obtain ⟨limit, hlimit⟩ := exists_takesVariable hvariables.sizeLimit Scanner.builtinSizeLimit
    have hpositive : 0 < time := (htime.pos_iff base.positive).mpr hvariables.timePerFix
    let s : Settings := { base with timePerFix := time, positive := hpositive, caseSensitive := sensitive }
    exact ⟨⟨folder, path, s, limit⟩, hfolder, hpath, ⟨base, hbase, rfl, htime, rfl, rfl, rfl, hsensitive⟩, hlimit⟩

/-- A configuration loads exactly when its settings file and the variables of the environment are in order, and it holds
what they say. In its settings a fix takes some time, the ids of the terms differ, and no term is blank. Its size limit
is positive unless the variable for it writes an integer that is not; with such a limit a scanner refuses every text
that is not empty. -/
theorem configurations_of_load (reader : DocumentReader) (disk : Disk) (e : Environment) (named : Option Text) :
    ((∃ c, load reader disk e named = .ok c) ↔ HasSoundFile reader disk e named ∧ HasSoundVariables e) ∧
      ∀ c, load reader disk e named = .ok c →
        Holds reader disk e named c ∧
          0 < c.settings.timePerFix ∧ (c.settings.terms.map (·.id)).Nodup ∧
          (∀ t ∈ c.settings.terms, Text.isAllBlank t.text = false) ∧
          (0 < c.sizeLimit ↔ ∀ value, e.value? "BIASSCAN_MAX_FILE_SIZE" = some value → WritesPositive value) ∧
          ∀ catalog excluded, (Scanner.new c.settings catalog c.sizeLimit excluded).RefusesAll ↔ c.sizeLimit ≤ 0 := by
  refine ⟨exists_load_iff, fun c hc => ?_⟩
  have hholds := load_eq_ok_iff.mp hc
  have hbuiltin : 0 < Scanner.builtinSizeLimit := by decide
  exact ⟨hholds, c.settings.positive, c.settings.distinct, fun t _ => t.notBlank, hholds.sizeLimit.pos_iff hbuiltin,
    fun _ _ => Scanner.refusesAll_iff⟩

/-- A disk with a settings file that sets the time, in the folder for configurations below a home folder. -/
def slowDisk : Disk where
  root :=
    .folder [("home".toList, .folder [(".config".toList, .folder [("biasscan".toList, .folder
      [("settings.yaml".toList, .file (Text.encodeUtf8 "time_per_fix: 45\n".toList))])])])]
  workingNames := []

/-- An environment with a home folder, letter case and a size limit. -/
def strictEnvironment : Environment :=
  ⟨[("HOME", "/home/".toList), ("BIASSCAN_CASE_SENSITIVE", " Yes ".toList),
    ("BIASSCAN_MAX_FILE_SIZE", "2_048".toList)], none⟩

/-- The time of the file below the home folder, and the letter case and the size limit of the environment, are those of
the configuration. -/
theorem configurations_of_load_slow :
    ∃ c, load Plain.documentReader slowDisk strictEnvironment none = .ok c ∧
      c.settingsPath = some "/home/.config/biasscan/settings.yaml".toList ∧ c.settings.timePerFix = 45 ∧
      c.settings.caseSensitive = true ∧ 0 < c.sizeLimit := by
  have hfields : (load Plain.documentReader slowDisk strictEnvironment none).toOption.map
      (fun c => (c.settingsPath, c.settings.timePerFix, c.settings.caseSensitive)) =
        some (some "/home/.config/biasscan/settings.yaml".toList, 45, true) := by
    decide +kernel
  obtain ⟨c, hload, hc⟩ := Attempt.exists_eq_ok_of_toOption hfields
  simp only [Prod.mk.injEq] at hc
  obtain ⟨hpath, htime, hcase⟩ := hc
  obtain ⟨-, -, -, -, hlimit, -⟩ := (configurations_of_load _ _ _ _).2 c hload
  refine ⟨c, hload, hpath, htime, hcase, hlimit.mpr ?_⟩
  rintro _ ⟨⟩
  exact ⟨2048, rfl, by decide⟩

/-- An environment with a home folder and a size limit below zero. -/
def shrunkenEnvironment : Environment := ⟨[("HOME", "/root".toList), ("BIASSCAN_MAX_FILE_SIZE", "-1".toList)], none⟩

/-- A size limit below zero loads, and a scanner with it refuses every text that is not empty. -/
theorem load_of_negativeLimit :
    ∃ c, load Plain.documentReader ⟨.folder [], []⟩ shrunkenEnvironment none = .ok c ∧ c.sizeLimit = -1 ∧
      (Scanner.new c.settings .builtin c.sizeLimit []).RefusesAll := by
  refine ⟨⟨"/root/.config/biasscan".toList, none, .builtin, -1⟩, load_eq_ok_iff.mpr ?_, rfl,
    Scanner.refusesAll_iff.mpr (by decide)⟩
  exact ⟨rfl, rfl, ⟨.builtin, rfl, rfl, rfl, rfl, rfl, rfl, rfl⟩, rfl⟩

end Wording.Configuration
