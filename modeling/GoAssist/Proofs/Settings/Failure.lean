import GoAssist.Proofs.Settings.Assignment

/-!
# Assignments that fail

An assignment checks its value, loads all settings and saves them with the one changed, and may fail at
each of these. Here the settings file may also be out of reach for reasons that do not lie in the files:
reading it may fail whatever stands there (`MayRead`), the settings may be such that no text spells them,
and writing the text may break off (`MaySave`).

A value that is refused comes before all else, and settings that cannot be loaded come before any write,
so an assignment that fails there leaves the files as the check left them: what cannot be read is not
written over (`loadFrom_of_error`). One that fails to save has made directories of the settings file at
most (`MaySave.grows_of_error`). So in the end every file still has its content, and the path of the settings
file leads to what it led to, unless it led nowhere and the directories alone make it lead somewhere
(`assignWith_error`). Two things may change the settings file all the same: the program that is tried,
and those directories (`not_forall_assign_error`).
-/

namespace GoAssist

namespace Assignment

/-- The machine after the value was checked; trying a Go program may have changed files. -/
def checked (run : Runner) (machine : Machine) : Assignment → Machine
  | goPath path => machine.withFiles (machine.tryGoPathBy run path).files
  | workspaceFolder _ => machine

def accepted (run : Runner) (machine : Machine) : Assignment → Bool
  | goPath path => (machine.tryGoPathBy run path).succeeds
  | workspaceFolder folder => machine.files.isDirectory machine.working folder

/-- The error of a value that is not accepted. -/
def refusal : Assignment → SettingsError
  | goPath path => .unusableGoPath path
  | workspaceFolder folder => .notDirectory folder

end Assignment

namespace Store

variable {run : Runner} {store : Store} {machine : Machine} {assignment : Assignment}

/-! ## Access to the settings file -/

/-- What saving settings may come to. A write that breaks off leaves the old file, and perhaps some more
of its directories. -/
inductive MaySave (store : Store) (machine : Machine) (settings : Settings) : Change Unit → Prop
  | carriedOut : MaySave store machine settings (store.save machine settings)
  /-- The folder is no text, so no text spells the settings. -/
  | unspelled : MaySave store machine settings (store.saveText machine none)
  | brokenOff (files : FileSystem) (grows : machine.files.Grows files)
      (made : files.Grows (store.prepared machine).files) :
      MaySave store machine settings ⟨files, .error (.inaccessible store.path)⟩

/-- What it comes to to read the settings file and to save settings to it. -/
structure Access (store : Store) (machine : Machine) where
  read : Except FileError String
  save : Settings → Change Unit
  may_read : store.MayRead machine read
  may_save : ∀ settings, store.MaySave machine settings (save settings)

/-- The files alone decide. -/
def Access.plain (store : Store) (machine : Machine) : store.Access machine where
  read := store.read machine
  save := store.save machine
  may_read := .found
  may_save _ := .carriedOut

/-- The settings that are loaded by some access to the settings file. -/
def Access.load (access : store.Access machine) : Except SettingsError Settings :=
  store.loadFrom machine access.read

/-- An assignment by some access to the settings file, after its value was checked. -/
def assignWith (run : Runner) (store : Store) (machine : Machine) (assignment : Assignment)
    (access : store.Access (assignment.checked run machine)) : Change Settings :=
  if assignment.accepted run machine then
    store.modifyBy (assignment.checked run machine) access.read access.save assignment.update
  else ⟨(assignment.checked run machine).files, .error assignment.refusal⟩

theorem assign_eq_assignWith (run : Runner) (store : Store) (machine : Machine)
    (assignment : Assignment) :
    store.assign run machine assignment = store.assignWith run machine assignment (.plain _ _) := by
  cases assignment with
  | goPath path => rfl
  | workspaceFolder folder => rfl

/-! ## What a failure leaves -/

theorem files_saveText_of_error {text? : Option String} {error : SettingsError}
    (h : (store.saveText machine text?).outcome = .error error) :
    (store.saveText machine text?).files = (store.prepared machine).files := by
  rcases saveText_cases store machine text? with ⟨failure, hfailed⟩ | ⟨text, after, -, -, -, hsaved⟩
  · rw [hfailed]
  · rw [hsaved] at h
    cases h

theorem MaySave.grows_of_error {settings : Settings} {change : Change Unit} {error : SettingsError}
    (h : store.MaySave machine settings change) (herror : change.outcome = .error error) :
    machine.files.Grows change.files ∧ change.files.Grows (store.prepared machine).files := by
  have hgrows : machine.files.Grows (store.prepared machine).files :=
    FileSystem.grows_makeParents _ _ _
  cases h with
  | carriedOut =>
      have hfiles : (store.save machine settings).files = (store.prepared machine).files :=
        files_saveText_of_error herror
      rw [hfiles]
      exact ⟨hgrows, .refl _⟩
  | unspelled =>
      rw [files_saveText_of_error herror]
      exact ⟨hgrows, .refl _⟩
  | brokenOff files hfiles hmade => exact ⟨hfiles, hmade⟩

theorem assignWith_of_not_accepted {access : store.Access (assignment.checked run machine)}
    (h : assignment.accepted run machine = false) : store.assignWith run machine assignment access
      = ⟨(assignment.checked run machine).files, .error assignment.refusal⟩ := by
  rw [assignWith, h, if_neg Bool.false_ne_true]

theorem assignWith_of_load_error {access : store.Access (assignment.checked run machine)}
    {error : SettingsError} (haccepted : assignment.accepted run machine = true)
    (hload : access.load = .error error) : store.assignWith run machine assignment access
      = ⟨(assignment.checked run machine).files, .error error⟩ := by
  rw [assignWith, if_pos haccepted, modifyBy_of_load_error hload]

theorem assignWith_of_load_ok {access : store.Access (assignment.checked run machine)}
    {settings : Settings} (haccepted : assignment.accepted run machine = true)
    (hload : access.load = .ok settings) : store.assignWith run machine assignment access
      = ⟨(access.save (assignment.update settings)).files,
        (access.save (assignment.update settings)).outcome.map fun _ => assignment.update settings⟩ := by
  rw [assignWith, if_pos haccepted, modifyBy_of_load_ok hload]

/-- An assignment that fails has made some of the directories of the settings file at most. -/
theorem grows_of_assignWith_error {access : store.Access (assignment.checked run machine)}
    {error : SettingsError} (h : (store.assignWith run machine assignment access).outcome = .error error) :
    let checked := assignment.checked run machine
    let after := (store.assignWith run machine assignment access).files
    checked.files.Grows after ∧ after.Grows (store.prepared checked).files := by
  intro checked after
  have hgrows := FileSystem.grows_makeParents checked.files checked.working store.path
  cases haccepted : assignment.accepted run machine with
  | false =>
      simp only [after, assignWith_of_not_accepted haccepted]
      exact ⟨.refl _, hgrows⟩
  | true =>
      cases hload : access.load with
      | error error =>
          simp only [after, assignWith_of_load_error haccepted hload]
          exact ⟨.refl _, hgrows⟩
      | ok settings =>
          simp only [after, assignWith_of_load_ok haccepted hload] at h ⊢
          cases hsave : (access.save (assignment.update settings)).outcome with
          | error failure => exact (access.may_save _).grows_of_error hsave
          | ok =>
              rw [hsave] at h
              cases h

/-- A value that is not accepted is reported whatever the settings file holds, and settings that cannot
be loaded are reported by the same error as by a load, which a file that cannot be read and one that
spells no settings lead to; none of this changes any file. After any failure all files are there as they
were, with some of the settings file's missing directories at most, and its path leads to what it led to,
unless it led nowhere and these directories alone make it lead somewhere. All this is counted from the
files as the check of the value left them, by whatever way the Go program is run. -/
theorem assignWith_error (run : Runner) (store : Store) (machine : Machine) (assignment : Assignment)
    (access : store.Access (assignment.checked run machine)) :
    let checked := assignment.checked run machine
    let change := store.assignWith run machine assignment access
    (assignment.accepted run machine = false → change = ⟨checked.files, .error assignment.refusal⟩)
    ∧ (assignment.accepted run machine = true →
        (∀ error, access.load = .error error → change = ⟨checked.files, .error error⟩)
        ∧ (∀ error, access.read = .error error → error ≠ .notFound →
            change = ⟨checked.files, .error (.inaccessible store.path)⟩)
        ∧ ∀ text, access.read = .ok text → Settings.ofText? text = none →
            change = ⟨checked.files, .error (.malformed store.path)⟩)
    ∧ ∀ error, change.outcome = .error error →
        checked.files.Grows change.files ∧ change.files.Grows (store.prepared checked).files
        ∧ (change.files.find checked.working store.path = checked.files.find checked.working store.path
          ∨ checked.files.find checked.working store.path = .error .notFound
            ∧ (store.prepared checked).files.find checked.working store.path ≠ .error .notFound) := by
  intro checked change
  refine ⟨assignWith_of_not_accepted, fun haccepted => ⟨fun error => ?_, fun error hread hfound => ?_,
    fun text hread hmalformed => ?_⟩, fun error herror => ?_⟩
  · exact assignWith_of_load_error haccepted
  · refine assignWith_of_load_error haccepted ?_
    rw [Access.load, hread, loadFrom_of_error hfound]
  · refine assignWith_of_load_error haccepted ?_
    rw [Access.load, hread, loadFrom_of_malformed hmalformed]
  · obtain ⟨hgrows, hmade⟩ := grows_of_assignWith_error herror
    exact ⟨hgrows, hmade, FileSystem.find_between hgrows hmade⟩

/-- A settings file that spells nothing, met with a folder and with a value that is none; and a folder that
is no text, for which the directory of the settings file is made and nothing else. -/
theorem assignWith_error_malformed :
    let store : Store := ⟨"/a.json"⟩
    let machine : Machine :=
      ⟨⟨[([], .directory), (["a.json"], .file "\x7b".toUTF8 false)]⟩, [], []⟩
    store.assign Machine.run machine (.workspaceFolder "/")
      = ⟨machine.files, .error (.malformed "/a.json")⟩
    ∧ store.assign Machine.run machine (.workspaceFolder "/a.json")
      = ⟨machine.files, .error (.notDirectory "/a.json")⟩
    ∧ let other : Store := ⟨"/b/c.json"⟩
      let change := other.assignWith Machine.run machine (.workspaceFolder "/")
        ⟨other.read machine, fun _ => other.saveText machine none, .found, fun _ => .unspelled⟩
      change.outcome = .error (.malformed "/b/c.json")
        ∧ machine.files.Grows change.files ∧ change.files.Grows (other.prepared machine).files := by
  intro store machine
  rw [assign_eq_assignWith, assign_eq_assignWith]
  obtain ⟨-, hkept, -⟩ :=
    assignWith_error Machine.run store machine (.workspaceFolder "/") (.plain _ _)
  obtain ⟨hrefused, -, -⟩ :=
    assignWith_error Machine.run store machine (.workspaceFolder "/a.json") (.plain _ _)
  have hfails : (Access.plain store machine).load = .error (.malformed "/a.json") := by decide +kernel
  refine ⟨(hkept (by decide +kernel)).1 _ hfails, hrefused (by decide +kernel), ?_⟩
  intro other change
  have herror : change.outcome = .error (.malformed "/b/c.json") := by decide +kernel
  obtain ⟨-, -, hfailed⟩ := assignWith_error Machine.run other machine (.workspaceFolder "/") _
  obtain ⟨hgrows, hmade, -⟩ := hfailed _ herror
  exact ⟨herror, hgrows, hmade⟩

/-- A Go path that is refused may lead to a program that wrote to the settings file, and a folder may fail
to be saved after the path of the file, which led nowhere, was made to lead to a directory. -/
theorem not_forall_assign_error :
    (¬∀ (store : Store) (machine : Machine) (path : String) (error : SettingsError),
      (store.assign Machine.run machine (.goPath path)).outcome = .error error →
        (store.assign Machine.run machine (.goPath path)).files.readBytes machine.working store.path
          = machine.files.readBytes machine.working store.path)
    ∧ ¬∀ (store : Store) (machine : Machine) (folder : String) (error : SettingsError),
      (store.assign Machine.run machine (.workspaceFolder folder)).outcome = .error error →
        (store.assign Machine.run machine (.workspaceFolder folder)).files.pathExists machine.working
            store.path
          = machine.files.pathExists machine.working store.path := by
  constructor
  · intro h
    let machine : Machine :=
      ⟨⟨[([], .directory), (["bin"], .directory),
          (["sh", "bin"], .file (Shell.Program.image "sh") true),
          (["prog"], .file "#!/bin/sh\necho gone > /a.json\nexit 1\n".toUTF8 true),
          (["a.json"], .file "\x7b\x7d".toUTF8 false)]⟩, [], []⟩
    let after := (Store.assign Machine.run ⟨"/a.json"⟩ machine (.goPath "/prog")).files
    have hsame : after.readBytes [] "/a.json" = machine.files.readBytes [] "/a.json" :=
      h ⟨"/a.json"⟩ machine "/prog" (.unusableGoPath "/prog") (by decide +kernel)
    have hdiffers : (after.readBytes [] "/a.json").toOption
        ≠ (machine.files.readBytes [] "/a.json").toOption := by decide +kernel
    exact hdiffers (congrArg Except.toOption hsame)
  · intro h
    let machine : Machine := ⟨⟨[([], .directory)]⟩, [], []⟩
    have hsame := h ⟨"/a/b/.."⟩ machine "/" (.inaccessible "/a/b/..") (by decide +kernel)
    revert hsame
    decide +kernel

end Store

end GoAssist
