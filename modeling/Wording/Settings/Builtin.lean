import Wording.Settings.Basic

/-!
The built-in terms and the settings that hold when nothing else is said.
-/

set_option autoImplicit false

namespace Wording.Settings

/-- The built-in terms. -/
def builtinTerms : List Term :=
  [⟨"1".toList, "man".toList, .gender, .medium, ["person".toList, "individual".toList], rfl⟩,
   ⟨"2".toList, "woman".toList, .gender, .medium, ["person".toList, "individual".toList], rfl⟩,
   ⟨"3".toList, "male".toList, .gender, .medium, ["user".toList, "participant".toList], rfl⟩,
   ⟨"4".toList, "female".toList, .gender, .medium, ["user".toList, "participant".toList], rfl⟩,
   ⟨"5".toList, "master".toList, .hierarchy, .high,
    ["main".toList, "primary".toList, "leader".toList], rfl⟩,
   ⟨"6".toList, "slave".toList, .hierarchy, .high,
    ["worker".toList, "replica".toList, "follower".toList], rfl⟩,
   ⟨"7".toList, "blacklist".toList, .race, .high, ["blocklist".toList, "denylist".toList], rfl⟩,
   ⟨"8".toList, "whitelist".toList, .race, .high, ["allowlist".toList, "safelist".toList], rfl⟩,
   ⟨"9".toList, "king".toList, .gender, .medium, ["leader".toList, "ruler".toList], rfl⟩,
   ⟨"10".toList, "queen".toList, .gender, .medium, ["leader".toList, "ruler".toList], rfl⟩,
   ⟨"11".toList, "boy".toList, .age, .low, ["child".toList, "youth".toList], rfl⟩,
   ⟨"12".toList, "girl".toList, .age, .low, ["child".toList, "youth".toList], rfl⟩]

/-- The seconds that a fix takes if nothing else is said. -/
def builtinTimePerFix : Int := 30

/-- The settings that hold if nothing else is said. -/
def builtin : Settings where
  terms := builtinTerms
  timePerFix := builtinTimePerFix
  includeIdentifiers := true
  includeStrings := true
  includeComments := true
  caseSensitive := false
  positive := by decide
  distinct := by decide

def empty : Settings where
  terms := []
  timePerFix := builtinTimePerFix
  includeIdentifiers := true
  includeStrings := true
  includeComments := true
  caseSensitive := false
  positive := by decide
  distinct := by decide

end Wording.Settings
