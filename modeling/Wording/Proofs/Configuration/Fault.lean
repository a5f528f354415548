import Wording.Configuration
import Wording.Proofs.Settings.Layer
import Wording.Proofs.Text.Integer

/-!
How the loading of a configuration fails. With a settings file at hand it ends with a configuration or with a refusal
exactly when the bytes of the file are a document: they are UTF-8, the reader takes their text, and nothing in it that
cannot be written stands in the way of saying what is wrong with it. What the variables of the environment say is taken
or refused in any case. Each step is told apart by the faults that it can end in, so that the loading as a whole needs
no more than one of its steps behind the other.
-/

set_option autoImplicit false

namespace Wording

open Attempt (FailsWith failsWith_ok failsWith_error_iff failsWith_bind_iff failsWith_map_iff failsWith_mapError_iff)

/-- That a fault of a configuration is a refusal of its settings. -/
def ConfigurationError.IsRefusal : ConfigurationError → Prop
  | .refused reason => reason.IsRefusal
  | _ => False

namespace Configuration

/-- That the bytes of a file are a document for a reader: they are UTF-8, the reader takes the text in them, and what it
makes of it is taken or refused as settings. -/
def AreDocument (reader : DocumentReader) (bytes : List UInt8) : Prop :=
  ∃ t v, Text.decodeUtf8 bytes = .ok t ∧ reader.read (Text.unifyLineEnds t) = .ok v ∧
    FailsWith SettingsError.IsRefusal (Settings.builtin.layerValue reader.rooms v)

/-- That some bytes are those of the settings file, which is named or lies in the folder for configurations. -/
def AreOfSettingsFile (disk : Disk) (e : Environment) (named : Option Text) (bytes : List UInt8) : Prop :=
  ∃ folder path, folderOf e = .ok folder ∧ settingsPath? disk folder named = .ok (some path) ∧
    disk.at? path = .ok (.file bytes)

/-! ## Variables -/

section Variables

variable {α : Type} (e : Environment)

theorem failsWith_integerOf (name : String) (value : Text) :
    FailsWith SettingsError.IsRefusal (integerOf name value) := by
  rw [integerOf]
  cases Text.readInteger? value with
  | none => exact failsWith_error_iff.mpr trivial
  | some n => exact failsWith_ok n

theorem failsWith_booleanOf (name : String) (value : Text) :
    FailsWith SettingsError.IsRefusal (booleanOf name value) := by
  rw [booleanOf]
  split
  · exact failsWith_ok true
  · split
    · exact failsWith_ok false
    · exact failsWith_error_iff.mpr trivial

theorem failsWith_given? {read : String → Text → Except SettingsError α} {name : String}
    (h : ∀ value, FailsWith SettingsError.IsRefusal (read name value)) :
    FailsWith SettingsError.IsRefusal (given? e read name) := by
  rw [given?]
  cases e.value? name with
  | none => exact failsWith_ok none
  | some value => exact failsWith_map_iff.mpr (h value)

/-- An integer that a variable gives can be written. -/
theorem isWritable_of_given? {e : Environment} {name : String} {n : Int}
    (h : given? e integerOf name = .ok (some n)) : Text.isWritable n = true := by
  rw [given?] at h
  cases hvalue : e.value? name with
  | none =>
    rw [hvalue] at h
    cases h
  | some value =>
    rw [hvalue, Option.mapM_some] at h
    obtain ⟨m, hm, ⟨⟩⟩ := Attempt.map_eq_ok_iff.mp h
    exact Text.isWritable_of_readInteger? (Attempt.elim_eq_ok_iff.mp hm)

/-- The settings of an environment over others are made or refused. -/
theorem failsWith_settingsOfEnvironment (s : Settings) :
    FailsWith SettingsError.IsRefusal (settingsOfEnvironment e s) := by
  rw [settingsOfEnvironment]
  refine failsWith_bind_iff.mpr ⟨failsWith_given? e (failsWith_integerOf _), fun time htime => ?_⟩
  refine failsWith_bind_iff.mpr ⟨Settings.failsWith_replace s (fun _ => id) ?_, fun timed _ => ?_⟩
  · -- A time from a variable has been read from a text, so that it can be written too.
    intro n why hn hunwritten
    rw [show time = some n from hn] at htime
    rw [Text.writeInt, if_pos (isWritable_of_given? htime)] at hunwritten
    cases hunwritten
  · refine failsWith_bind_iff.mpr ⟨failsWith_given? e (failsWith_booleanOf _), fun _ _ => ?_⟩
    refine Settings.failsWith_replace timed (fun _ => id) fun n why hn => ?_
    cases hn

theorem failsWith_sizeLimitOf : FailsWith SettingsError.IsRefusal (sizeLimitOf e) :=
  failsWith_bind_iff.mpr ⟨failsWith_given? e (failsWith_integerOf _), fun _ _ => failsWith_ok _⟩

end Variables

/-! ## The settings file -/

/-- The settings of a text are made or refused if the reader takes it and nothing in it is in the way. -/
theorem failsWith_settingsOfText_iff {reader : DocumentReader} {base : Settings} {t : Text} :
    FailsWith ConfigurationError.IsRefusal (settingsOfText reader base t) ↔
      ∃ v, reader.read t = .ok v ∧ FailsWith SettingsError.IsRefusal (base.layerValue reader.rooms v) := by
  rw [settingsOfText]
  cases reader.read t with
  | error failure => exact iff_of_false (fun h => h _ rfl) fun ⟨_, hv, _⟩ => nomatch hv
  | ok v =>
    simp only [Except.ok.injEq, exists_eq_left']
    exact failsWith_mapError_iff

/-- The settings of a file are made or refused if its bytes are a document. -/
theorem failsWith_settingsOfFile_iff {reader : DocumentReader} {disk : Disk} {path : Text} {bytes : List UInt8}
    (h : disk.at? path = .ok (.file bytes)) :
    FailsWith ConfigurationError.IsRefusal (settingsOfFile reader disk (some path)) ↔ AreDocument reader bytes := by
  rw [settingsOfFile, Disk.readText, h]
  unfold AreDocument
  dsimp only
  cases Text.decodeUtf8 bytes with
  | error fault => exact iff_of_false (fun h => h _ rfl) fun ⟨_, _, ht, _⟩ => nomatch ht
  | ok t =>
    simp only [Except.ok.injEq, exists_and_left, exists_eq_left']
    exact failsWith_settingsOfText_iff

/-- With a settings file, a configuration loads or is refused if the bytes of the file are a document. -/
theorem failsWith_load_iff {reader : DocumentReader} {disk : Disk} {e : Environment} {named : Option Text}
    {bytes : List UInt8} (h : AreOfSettingsFile disk e named bytes) :
    FailsWith ConfigurationError.IsRefusal (load reader disk e named) ↔ AreDocument reader bytes := by
  obtain ⟨folder, path, hfolder, hpath, hfile⟩ := h
  rw [← failsWith_settingsOfFile_iff hfile, load, hfolder]
  simp only [failsWith_bind_iff, failsWith_ok, hpath, Except.ok.injEq, forall_eq', true_and]
  refine and_iff_left fun fromFile _ => ⟨?_, fun _ _ => ⟨?_, fun _ _ => failsWith_ok _⟩⟩
  · exact failsWith_mapError_iff.mpr (failsWith_settingsOfEnvironment e fromFile)
  · exact failsWith_mapError_iff.mpr (failsWith_sizeLimitOf e)

end Configuration

end Wording
