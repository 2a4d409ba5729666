/-
This file shows which settings a run works with. What a file holds is kept if it is valid, and gives
way to the standard settings if it is not. Arguments override what is kept afterwards, and of all
settings only the name of the sender can become invalid by them.
-/

import CommandShell.Program.Run
import CommandShell.Proofs.Words

namespace CommandShell

open Text

/-! ### Valid settings -/

namespace Settings

/-- The shell can work with each of these settings. -/
structure IsValid (settings : Settings) : Prop where
  keepsLines : 0 < settings.history.maxSize
  named : ∃ char ∈ settings.console.name.toList, isBlank char = false
  permits : ∀ permission ∈ settings.console.permissions, isWord permission.toList
  hasColumns : 0 < settings.shell.menuColumns

variable {settings : Settings}

/-- The checks find no fault in valid settings, and one in all others. -/
theorem fault?_eq_none_iff : settings.fault? = none ↔ settings.IsValid := by
  fun_cases fault? settings with
  | case1 noLines =>
      refine iff_of_false (by simp) ?_
      intro valid
      have := valid.keepsLines
      omega
  | case2 _ unnamed =>
      refine iff_of_false (by simp) ?_
      intro valid
      obtain ⟨char, member, solid⟩ := valid.named
      have blank := isEmpty_trim_iff.mp unnamed char member
      rw [blank] at solid
      cases solid
  | case3 _ _ permission found =>
      refine iff_of_false (by simp) ?_
      intro valid
      have word := valid.permits permission (List.mem_of_find?_eq_some found)
      simpa [word] using List.find?_some found
  | case4 _ _ _ noColumns =>
      refine iff_of_false (by simp) ?_
      intro valid
      have := valid.hasColumns
      omega
  | case5 lines named permits columns =>
      refine iff_of_true rfl ⟨by omega, ?_, ?_, by omega⟩
      · rw [isEmpty_trim_iff] at named
        simpa using named
      · simpa using permits

/-- Of settings that keep lines a name of blanks is the first fault. -/
theorem fault?_of_blank_name (lines : 0 < settings.history.maxSize)
    (blank : ∀ char ∈ settings.console.name.toList, isBlank char) :
    settings.fault? = some (.invalidValue "console.name" settings.console.name) := by
  have unnamed : (trim settings.console.name.toList).isEmpty := isEmpty_trim_iff.mpr blank
  rw [fault?, if_neg (Nat.ne_of_gt lines), if_pos unnamed]

theorem isValid_standard (home : String) : (standard home).IsValid := by
  refine ⟨?_, ⟨'c', ?_, ?_⟩, ?_, ?_⟩
  · show 0 < 1000
    decide
  · show 'c' ∈ "console".toList
    decide
  · decide
  · show ∀ permission ∈ ["cmdtree.*"], isWord permission.toList
    decide
  · show 0 < 4
    decide

end Settings

/-! ### The settings of a run -/

namespace Program

open Invocation

/-- These settings are found for a run: those that are read in the file that is named, or in the
standard one where none is named. Where that one is missing, they are the standard settings. -/
inductive Finds (readers : Readers) (environment : Environment) (overrides : Overrides) :
    Settings → Prop
  | nothing (unnamed : overrides.settingsPath = none)
      (missing : environment.files.contentAt (settingsPath environment overrides) = .missing) :
      Finds readers environment overrides (.standard environment.home)
  | file {content : String} {settings : Settings}
      (stands : environment.files.contentAt (settingsPath environment overrides) = .file content)
      (readable : readers.settings environment.home content = .ok settings) :
      Finds readers environment overrides settings

/-- A computation can be checked for its value. -/
instance decidableEqOk {ε α : Type} [DecidableEq α] (value : α) :
    (result : Except ε α) → Decidable (result = .ok value)
  | .error _ => isFalse nofun
  | .ok found => decidable_of_iff (found = value) (by rw [Except.ok.injEq])

/-- Valid settings are kept. All others give way to the standard ones, and a warning tells of their
first fault. -/
inductive Keeps (home : String) (found : Settings) : Settings → List String → Prop
  | found (valid : found.IsValid) : Keeps home found found []
  | standard {fault : SettingsError} {warnings : List String} (faulty : found.fault? = some fault)
      (told : warnings.head? =
        some ("Warning: Configuration validation failed: " ++ fault.report)) :
      Keeps home found (.standard home) warnings

variable {readers : Readers} {environment : Environment} {overrides : Overrides}

theorem readSettings_eq_ok_iff {path : String} {settings : Settings} :
    readSettings readers environment path = .ok settings ↔
      ∃ content, environment.files.contentAt path = .file content ∧
        readers.settings environment.home content = .ok settings := by
  fun_cases readSettings readers environment path with
  | case1 stands | case2 stands | case3 stands | case4 stands => simp [stands]
  | case5 content stands =>
      simp only [stands, PathContent.file.injEq, exists_eq_left']
      cases readers.settings environment.home content with
      | error error => exact iff_of_false nofun nofun
      | ok read =>
          show (Except.ok read : Except Failure Settings) = .ok settings ↔ _
          simp only [Except.ok.injEq]

theorem loadSettings_eq_ok_iff {found : Settings} :
    loadSettings readers environment overrides = .ok found ↔
      Finds readers environment overrides found := by
  constructor
  · intro loaded
    simp only [loadSettings] at loaded
    split at loaded
    next absent =>
      simp only [Bool.and_eq_true, Option.isNone_iff_eq_none, decide_eq_true_eq] at absent
      cases loaded
      exact .nothing absent.1 absent.2
    next =>
      obtain ⟨content, stands, readable⟩ := readSettings_eq_ok_iff.mp loaded
      exact .file stands readable
  · intro finds
    cases finds with
    | nothing unnamed missing => simp [loadSettings, unnamed, missing]
    | file stands readable =>
        simpa [loadSettings, stands] using readSettings_eq_ok_iff.mpr ⟨_, stands, readable⟩

theorem Keeps.isValid {home : String} {found kept : Settings} {warnings : List String}
    (keeps : Keeps home found kept warnings) : kept.IsValid := by
  cases keeps with
  | found valid => exact valid
  | standard _ _ => exact Settings.isValid_standard home

theorem override_isValid {settings : Settings} (valid : settings.IsValid)
    (named : ∀ name, overrides.senderName = some name → ∃ char ∈ name.toList, isBlank char = false) :
    (override overrides settings).IsValid where
  keepsLines := valid.keepsLines
  named := by
    cases given : overrides.senderName with
    | none => simpa [override, given] using valid.named
    | some name => simpa [override, given] using named name given
  permits := valid.permits
  hasColumns := valid.hasColumns

theorem override_fault?_of_blank_name {settings : Settings} {name : String}
    (valid : settings.IsValid) (given : overrides.senderName = some name)
    (blank : ∀ char ∈ name.toList, isBlank char) :
    (override overrides settings).fault? = some (.invalidValue "console.name" name) := by
  have renamed : (override overrides settings).console.name = name := by simp [override, given]
  have lines : 0 < (override overrides settings).history.maxSize := valid.keepsLines
  have fault := Settings.fault?_of_blank_name lines (by rwa [renamed])
  rwa [renamed] at fault

/-- Only a name of blanks is a fault that overriding brings into valid settings. -/
theorem override_fault?_eq_some_iff {settings : Settings} {fault : SettingsError}
    (valid : settings.IsValid) :
    (override overrides settings).fault? = some fault ↔
      ∃ name, overrides.senderName = some name ∧ (∀ char ∈ name.toList, isBlank char) ∧
        fault = .invalidValue "console.name" name := by
  constructor
  · intro faulty
    by_cases renamed : ∃ name, overrides.senderName = some name ∧ ∀ char ∈ name.toList, isBlank char
    · obtain ⟨name, given, blank⟩ := renamed
      rw [override_fault?_of_blank_name valid given blank] at faulty
      exact ⟨name, given, blank, (Option.some.inj faulty).symm⟩
    · have kept : (override overrides settings).IsValid :=
        override_isValid valid (by simpa using renamed)
      rw [Settings.fault?_eq_none_iff.mpr kept] at faulty
      cases faulty
  · rintro ⟨name, given, blank, rfl⟩
    exact override_fault?_of_blank_name valid given blank

theorem exists_keeps {found : Settings} (finds : Finds readers environment overrides found) :
    ∃ kept warnings, Keeps environment.home found kept warnings ∧
      effectiveSettings readers environment overrides =
        .ok (override overrides kept, warnings) := by
  have loaded : loadSettings readers environment overrides = pure found :=
    loadSettings_eq_ok_iff.mpr finds
  cases verdict : found.fault? with
  | none =>
      refine ⟨found, [], .found (Settings.fault?_eq_none_iff.mp verdict), ?_⟩
      rw [effectiveSettings, loaded, pure_bind, verdict]
      rfl
  | some fault =>
      have told : ["Warning: Configuration validation failed: " ++ fault.report,
        "Using default configuration instead."].head? = some _ := rfl
      refine ⟨.standard environment.home, _, .standard verdict told, ?_⟩
      rw [effectiveSettings, loaded, pure_bind, verdict]
      rfl

/-- Arguments override valid settings, those that are found or the standard ones. A run works with
valid settings, unless an argument names the sender by blanks. What the readers make of files and
arguments does not matter for this. -/
theorem effectiveSettings_fault_iff {found : Settings}
    (finds : Finds readers environment overrides found) :
    ∃ kept warnings, Keeps environment.home found kept warnings ∧
      effectiveSettings readers environment overrides = .ok (override overrides kept, warnings) ∧
      ∀ fault, (override overrides kept).fault? = some fault ↔
        ∃ name, overrides.senderName = some name ∧ (∀ char ∈ name.toList, isBlank char) ∧
          fault = .invalidValue "console.name" name := by
  obtain ⟨kept, warnings, keeps, effective⟩ := exists_keeps finds
  exact ⟨kept, warnings, keeps, effective, fun fault => override_fault?_eq_some_iff keeps.isValid⟩

/-- A file without columns for the menu gives way to the standard settings. -/
theorem effectiveSettings_fault_iff_without_columns :
    let environment : Environment := ⟨"/root", false,
      .ofPaths [("/root/.cmdtree/config.toml", .file "[shell]\nmenu_columns = 0\n")]⟩
    let overrides : Overrides := ⟨none, some "guest", true, false, false, false, false⟩
    let standard := Settings.standard "/root"
    let found := { standard with shell := { standard.shell with menuColumns := 0 } }
    Finds .standard environment overrides found ∧
      ∃ kept warnings, Keeps environment.home found kept warnings ∧
        effectiveSettings .standard environment overrides =
          .ok (override overrides kept, warnings) ∧
        ∀ fault, (override overrides kept).fault? = some fault ↔
          ∃ name, overrides.senderName = some name ∧ (∀ char ∈ name.toList, isBlank char) ∧
            fault = .invalidValue "console.name" name := by
  intro environment overrides standard found
  have stands : environment.files.contentAt "/root/.cmdtree/config.toml" =
      .file "[shell]\nmenu_columns = 0\n" := by decide +kernel
  have finds : Finds .standard environment overrides found := .file stands (by decide +kernel)
  exact ⟨finds, effectiveSettings_fault_iff finds⟩

/-- The name that an argument gives to the sender is not checked. It may be empty. -/
theorem not_every_run_valid :
    ¬ ∀ environment arguments invocation content settings warnings,
      Readers.standard.invocation arguments = .ok invocation →
      environment.files.contentAt (settingsPath environment invocation.overrides) = .file content →
      effectiveSettings .standard environment invocation.overrides = .ok (settings, warnings) →
      settings.fault? = none := by
  intro valid
  let environment : Environment :=
    ⟨"/root", false, .ofPaths [("/root/.cmdtree/config.toml", .file "")]⟩
  let overrides : Overrides := ⟨none, some "", false, false, false, false, false⟩
  have arguments : Readers.standard.invocation ["--as", ""] = .ok ⟨overrides, none⟩ := by rfl
  have stands : environment.files.contentAt "/root/.cmdtree/config.toml" = .file "" := by
    decide +kernel
  have finds : Finds .standard environment overrides (.standard "/root") :=
    .file stands (by decide +kernel)
  obtain ⟨kept, warnings, keeps, effective⟩ := exists_keeps finds
  have faultless := valid environment _ ⟨overrides, none⟩ "" _ warnings arguments stands effective
  rw [override_fault?_of_blank_name keeps.isValid rfl (by simp)] at faultless
  cases faultless

end Program

end CommandShell
