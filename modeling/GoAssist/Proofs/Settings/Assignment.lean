import GoAssist.Proofs.Files.Directories
import GoAssist.Proofs.Settings.Save
import Mathlib.Data.List.Find

/-!
# Settings assigned in sequence

A setting is assigned by loading all settings, changing one and saving all of them. Calls follow each
other, and each succeeds or fails; one that fails leaves the file and may have made some of its
directories (`Attempt`). As long as directories alone change nothing that is loaded
(`IgnoresDirectories`) and the file is nowhere where the Go program is looked for (`NotProbed`), every
call keeps what the next one relies on (`Steady`): a call that fails because nothing but directories
was added (`Steady.of_grows`), one that succeeds because what it saved is loaded (`Steady.save`). So
each setting is what the last successful call assigned to it (`load_of_run`). How programs are run to
try a Go path plays no part in this.

Directories alone may change what is loaded: the file may be given by a path through a directory that
is missing and back out of it (`not_forall_load_of_run`). It is enough to look at the case in which all
of them were made (`ignoresDirectories_of_prepared`).
-/

namespace GoAssist

/-! ## Looking for the Go program -/

namespace Machine

/-- Where the Go program is looked for, in order. -/
def goPathCandidates (machine : Machine) : List String :=
  machine.searchDirectories.map (Path.join · goProgram) ++ commonGoPaths

theorem detectGoPath?_eq_find? (machine : Machine) : machine.detectGoPath?
    = machine.goPathCandidates.find? (machine.files.isFile machine.working) := rfl

/-- What is found among some candidates, if the first and the last of three tests find the same and
each allows no more than the next. The empty text stands for nothing, so it may not pass. -/
theorem getD_find?_between {first middle last : String → Bool} {candidates : List String}
    (hmiddle : ∀ path, first path = true → middle path = true)
    (hlast : ∀ path, middle path = true → last path = true) (hempty : last "" = false)
    (h : (candidates.find? last).getD "" = (candidates.find? first).getD "") :
    (candidates.find? middle).getD "" = (candidates.find? first).getD "" := by
  induction candidates with
  | nil => rfl
  | cons path rest ih =>
      by_cases hfirst : first path = true
      · rw [List.find?_cons_of_pos hfirst, List.find?_cons_of_pos (hmiddle _ hfirst)]
      · by_cases hpath : last path = true
        · -- The last test finds this path, so the first one finds it further on, and it passes.
          rw [List.find?_cons_of_pos hpath, List.find?_cons_of_neg hfirst] at h
          cases hfound : rest.find? first with
          | none =>
              rw [hfound, Option.getD_some, Option.getD_none] at h
              rw [h, hempty] at hpath
              cases hpath
          | some found =>
              rw [hfound, Option.getD_some, Option.getD_some] at h
              exact absurd (h ▸ List.find?_some hfound) hfirst
        · have hnot : ¬middle path = true := fun hpass => hpath (hlast _ hpass)
          rw [List.find?_cons_of_neg hfirst, List.find?_cons_of_neg hpath] at h
          rw [List.find?_cons_of_neg hfirst, List.find?_cons_of_neg hnot]
          exact ih h

end Machine

namespace Store

variable {store : Store} {machine : Machine} {settings : Settings} {files after : FileSystem}

/-! ## Directories of the file -/

/-- Making the directories of the settings file, or a part of them, changes nothing that is loaded. -/
def IgnoresDirectories (store : Store) (machine : Machine) : Prop :=
  ∀ files, machine.files.Grows files → files.Grows (store.prepared machine).files →
    store.load (machine.withFiles files) = store.load machine

theorem loadStored_congr (h : after.readText machine.working store.path
    = files.readText machine.working store.path) :
    store.loadStored (machine.withFiles after) = store.loadStored (machine.withFiles files) := by
  simp only [loadStored, read, Machine.withFiles, h]

/-- A load gives the same while directories are added if it does in the end. -/
theorem load_between (hfiles : machine.files.Grows files) (hafter : files.Grows after)
    (hstored : store.loadStored (machine.withFiles after) = store.loadStored machine)
    (hload : store.load (machine.withFiles after) = store.load machine) :
    store.load (machine.withFiles files) = store.load machine := by
  have hsame : store.loadStored (machine.withFiles files) = store.loadStored machine := by
    by_cases hfound : machine.files.readText machine.working store.path = .error .notFound
    · by_cases hmiddle : files.readText machine.working store.path = .error .notFound
      · exact loadStored_congr (hmiddle.trans hfound.symm)
      · rw [← hstored]
        exact loadStored_congr (FileSystem.readText_of_grows hafter hmiddle).symm
    · exact loadStored_congr (FileSystem.readText_of_grows hfiles hfound)
  cases hmachine : store.loadStored machine with
  | error error =>
      rw [load_of_loadStored_error hmachine, load_of_loadStored_error (hsame.trans hmachine)]
  | ok settings =>
      rw [hmachine] at hstored hsame
      rw [load_of_loadStored hstored, load_of_loadStored hmachine] at hload
      rw [load_of_loadStored hsame, load_of_loadStored hmachine]
      by_cases hempty : settings.goPath = ""
      · simp only [hempty, if_true, Except.ok.injEq, Settings.mk.injEq, and_true] at hload ⊢
        exact Machine.getD_find?_between (fun _ => FileSystem.isFile_of_grows hfiles)
          (fun _ => FileSystem.isFile_of_grows hafter) rfl hload
      · rw [if_neg hempty, if_neg hempty]

/-- The settings file stands nowhere where the Go program is looked for. -/
def NotProbed (store : Store) (machine : Machine) : Prop :=
  ∀ path ∈ machine.goPathCandidates,
    ¬(store.prepared machine).files.SamePlace machine.working path store.path

instance (store : Store) (machine : Machine) : Decidable (store.NotProbed machine) :=
  inferInstanceAs (Decidable (∀ path ∈ _, _))

/-- The settings that are loaded, whatever part of the directories was made, and nothing but the
settings to be found in their file. -/
structure Steady (store : Store) (machine : Machine) (settings : Settings) : Prop where
  load : store.load machine = .ok settings
  ignores : store.IgnoresDirectories machine
  not_probed : store.NotProbed machine

theorem Steady.of_grows (h : store.Steady machine settings) (hfiles : machine.files.Grows files)
    (hmade : files.Grows (store.prepared machine).files) :
    store.Steady (machine.withFiles files) settings where
  load := (h.ignores files hfiles hmade).trans h.load
  ignores := by
    intro last hlast hprepared
    -- What can still be made was to be made at first.
    have hbetween := hprepared.trans (FileSystem.makeParents_grows_of_grows hmade)
    rw [h.ignores files hfiles hmade]
    exact h.ignores last (hfiles.trans hlast) hbetween
  not_probed := by
    intro path hpath hsame
    have hgrows := FileSystem.makeParents_grows_of_grows hmade
    exact h.not_probed path hpath (hsame.of_keepsDirectories hgrows.keepsDirectories)

theorem Steady.prepared (h : store.Steady machine settings) :
    store.Steady (store.prepared machine) settings :=
  h.of_grows (FileSystem.grows_makeParents _ _ _) (.refl _)

/-- A file that forgets what is written to it spells no settings. -/
theorem load_of_isSink (h : machine.files.isSink machine.working store.path = true) :
    store.load machine = .error (.malformed store.path) := by
  obtain ⟨location, hfind⟩ := FileSystem.isSink_eq_true_iff.mp h
  have hread : store.read machine = .ok "" := FileSystem.readText_of_find_sink hfind
  rw [load, hread]
  rfl

/-- Settings are loaded without a Go path only if none is found. -/
theorem detectGoPath?_of_load (h : store.load machine = .ok settings) (hempty : settings.goPath = "") :
    machine.detectGoPath?.getD "" = "" := by
  cases hstored : store.loadStored machine with
  | error error =>
      rw [load_of_loadStored_error hstored] at h
      cases h
  | ok stored =>
      rw [load_of_loadStored hstored] at h
      cases h
      by_cases hunset : stored.goPath = ""
      · rwa [if_pos hunset] at hempty
      · rw [if_neg hunset] at hempty
        exact absurd hempty hunset

/-- Writing the settings file changes nothing about where the Go program is found. -/
theorem NotProbed.detectGoPath?_writeFile {content : ByteArray} (h : store.NotProbed machine)
    (hwrite : (store.prepared machine).files.writeFile machine.working store.path content
      = .ok after) :
    (machine.withFiles after).detectGoPath? = (store.prepared machine).detectGoPath? := by
  rw [Machine.detectGoPath?_eq_find?, Machine.detectGoPath?_eq_find?]
  exact List.find?_congr fun path hpath => FileSystem.isFile_writeFile hwrite (h path hpath)

/-- After a save what was saved is loaded, and may be relied on as what was loaded before. A Go path
may be left unset only where none is found. -/
theorem Steady.save (h : store.Steady machine settings) {saved : Settings}
    (hsave : (store.save machine saved).outcome = .ok ())
    (hunset : saved.goPath = "" → settings.goPath = "") :
    store.Steady (machine.withFiles (store.save machine saved).files) saved := by
  rcases save_cases store machine saved with ⟨error, hfailed⟩ | ⟨after, hmade, hwrite, hsaved⟩
  · rw [hfailed] at hsave
    cases hsave
  obtain ⟨location, hplace, hfill⟩ := FileSystem.writeFile_eq_ok_iff.mp hwrite
  obtain ⟨hkeeps, hback⟩ := FileSystem.keepsDirectories_fill hfill
  -- No directory is left to be made.
  have hprepared : store.prepared (machine.withFiles after) = machine.withFiles after := by
    simp only [Store.prepared, Machine.withFiles, FileSystem.makeParents_of_made hmade hkeeps]
  have hstored := loadStored_after_save hsave
  rw [hsaved] at hstored ⊢
  constructor
  case load =>
    -- A load succeeded once the directories were there, so the file keeps what is written to it.
    have hsink : ¬after.isSink machine.working store.path = true := by
      intro hsink
      have hfails := load_of_isSink (FileSystem.isSink_of_writeFile hwrite hsink)
      rw [h.prepared.load] at hfails
      cases hfails
    rw [if_neg hsink] at hstored
    rw [load_of_loadStored hstored]
    by_cases hempty : saved.goPath = ""
    · rw [if_pos hempty, h.not_probed.detectGoPath?_writeFile hwrite,
        detectGoPath?_of_load h.prepared.load (hunset hempty), ← hempty]
    · rw [if_neg hempty]
  case ignores =>
    intro files hfiles hafter
    rw [hprepared] at hafter
    exact load_between hfiles hafter rfl rfl
  case not_probed =>
    intro path hpath hsame
    rw [hprepared] at hsame
    exact h.not_probed path hpath (hsame.of_keepsDirectories hback)

end Store

/-! ## One call -/

/-- A call that assigns one setting. -/
inductive Assignment where
  | goPath (path : String)
  | workspaceFolder (folder : String)
  deriving DecidableEq, Repr

namespace Assignment

def goPath? : Assignment → Option String
  | goPath path => some path
  | workspaceFolder _ => none

def workspaceFolder? : Assignment → Option String
  | goPath _ => none
  | workspaceFolder folder => some folder

/-- Settings in which the one setting was replaced. -/
def update (assignment : Assignment) (settings : Settings) : Settings :=
  ⟨assignment.goPath?.getD settings.goPath,
    assignment.workspaceFolder?.or settings.workspaceFolder⟩

/-- Trying the Go program that is assigned, if one is, writes nothing. -/
def TriedQuietly (run : Runner) (machine : Machine) : Assignment → Prop
  | goPath path => (machine.tryGoPathBy run path).files = machine.files
  | workspaceFolder _ => True

instance (run : Runner) (machine : Machine) : DecidablePred (TriedQuietly run machine)
  | goPath path => inferInstanceAs (Decidable ((machine.tryGoPathBy run path).files = machine.files))
  | workspaceFolder _ => isTrue trivial

end Assignment

namespace Store

variable {run : Runner} {store : Store} {machine : Machine} {settings : Settings}
  {assignment : Assignment} {change : Change Settings}

def assign (run : Runner) (store : Store) (machine : Machine) : Assignment → Change Settings
  | .goPath path => store.setGoPathBy run machine path
  | .workspaceFolder folder => store.setWorkspaceFolder machine folder

/-- What a call may come to where a write can fail for reasons that lie outside of the files. -/
inductive Attempt (run : Runner) (store : Store) (machine : Machine) (assignment : Assignment) :
    Change Settings → Prop
  /-- The call is carried out. -/
  | carriedOut (quiet : assignment.TriedQuietly run machine) :
      Attempt run store machine assignment (store.assign run machine assignment)
  /-- The call fails with the old file still there, and perhaps with some more of its directories. -/
  | brokenOff (files : FileSystem) (error : SettingsError) (grows : machine.files.Grows files)
      (made : files.Grows (store.prepared machine).files) :
      Attempt run store machine assignment ⟨files, .error error⟩

/-- What is kept by a change: on failure the settings, on success those that it gives. -/
structure Keeps (store : Store) (machine : Machine) (settings : Settings)
    (update : Settings → Settings) (change : Change Settings) : Prop where
  outcome : ∀ result, change.outcome = .ok result → result = update settings
  steady : store.Steady (machine.withFiles change.files)
    (if change.outcome.isOk then update settings else settings)

theorem Steady.keeps_of_error (h : store.Steady machine settings) (update : Settings → Settings)
    {files : FileSystem} {error : SettingsError} (hfiles : machine.files.Grows files)
    (hmade : files.Grows (store.prepared machine).files) :
    store.Keeps machine settings update ⟨files, .error error⟩ where
  outcome _ hresult := nomatch hresult
  steady := h.of_grows hfiles hmade

theorem Steady.keeps_modify (h : store.Steady machine settings) {update : Settings → Settings}
    (hunset : (update settings).goPath = "" → settings.goPath = "") :
    store.Keeps machine settings update (store.modify machine update) := by
  rw [modify, modifyBy_of_load_ok h.load]
  rcases save_cases store machine (update settings) with ⟨error, hfailed⟩ | ⟨after, -, -, hsaved⟩
  · rw [hfailed]
    exact h.keeps_of_error update (FileSystem.grows_makeParents _ _ _) (.refl _)
  · have hok : (store.save machine (update settings)).outcome = .ok () := by rw [hsaved]
    have hsteady := h.save hok hunset
    rw [hok]
    exact ⟨fun result hresult => (Except.ok.inj hresult).symm, hsteady⟩

theorem tryGoPathBy_empty (run : Runner) (machine : Machine) :
    (machine.tryGoPathBy run "").succeeds = false := by
  rw [tryGoPathBy_of_not_pathExists rfl]
  rfl

theorem Steady.keeps_assign (h : store.Steady machine settings)
    (hquiet : assignment.TriedQuietly run machine) :
    store.Keeps machine settings assignment.update (store.assign run machine assignment) := by
  have hgrows := FileSystem.grows_makeParents machine.files machine.working store.path
  cases assignment with
  | goPath path =>
      have hfiles : (machine.tryGoPathBy run path).files = machine.files := hquiet
      rw [assign, setGoPathBy, hfiles]
      split
      · rename_i hsucceeds
        -- A program that works has a path.
        refine h.keeps_modify fun hempty => ?_
        rw [show path = "" from hempty, tryGoPathBy_empty] at hsucceeds
        cases hsucceeds
      · exact h.keeps_of_error _ (.refl _) hgrows
  | workspaceFolder folder =>
      rw [assign, setWorkspaceFolder]
      split
      · exact h.keeps_modify id
      · exact h.keeps_of_error _ (.refl _) hgrows

/-- Every call keeps what the next one relies on. -/
theorem Attempt.keeps (hattempt : store.Attempt run machine assignment change)
    (h : store.Steady machine settings) :
    store.Keeps machine settings assignment.update change := by
  cases hattempt with
  | carriedOut hquiet => exact h.keeps_assign hquiet
  | brokenOff files error hfiles hmade => exact h.keeps_of_error _ hfiles hmade

/-! ## Calls in sequence -/

/-- Calls with their outcomes, the first one first. -/
abbrev History := List (Assignment × Except SettingsError Settings)

/-- What calls lead to, one after the other. -/
inductive Run (run : Runner) (store : Store) (start : Machine) : History → Machine → Prop
  | start : Run run store start [] start
  | call {history : History} {machine : Machine} {assignment : Assignment} {change : Change Settings}
      (earlier : Run run store start history machine)
      (attempt : store.Attempt run machine assignment change) :
      Run run store start (history ++ [(assignment, change.outcome)]) (machine.withFiles change.files)

/-- The last value that a successful call assigned to a setting. -/
def lastAssigned? (value? : Assignment → Option String) (history : History) : Option String :=
  (history.filterMap fun call => if call.2.isOk then value? call.1 else none).getLast?

theorem lastAssigned?_concat (value? : Assignment → Option String) (history : History)
    (assignment : Assignment) (outcome : Except SettingsError Settings) :
    lastAssigned? value? (history ++ [(assignment, outcome)])
      = (if outcome.isOk then value? assignment else none).or (lastAssigned? value? history) := by
  rw [lastAssigned?, List.filterMap_append, List.getLast?_append]
  cases h : (if outcome.isOk then value? assignment else none) <;> simp [h, lastAssigned?]

/-- The settings after some calls: each as it was last assigned. -/
def settingsAfter (initial : Settings) (history : History) : Settings :=
  ⟨(lastAssigned? Assignment.goPath? history).getD initial.goPath,
    (lastAssigned? Assignment.workspaceFolder? history).or initial.workspaceFolder⟩

theorem settingsAfter_concat (initial : Settings) (history : History) (assignment : Assignment)
    (outcome : Except SettingsError Settings) :
    settingsAfter initial (history ++ [(assignment, outcome)])
      = if outcome.isOk then assignment.update (settingsAfter initial history)
        else settingsAfter initial history := by
  rw [settingsAfter, lastAssigned?_concat, lastAssigned?_concat]
  split
  · cases assignment <;> rfl
  · rfl

theorem Run.steady {start : Machine} (h : store.Steady start settings) {history : History}
    (hrun : store.Run run start history machine) : store.Steady machine (settingsAfter settings history) := by
  induction hrun with
  | start => exact h
  | call hrun hattempt ih =>
      rw [settingsAfter_concat]
      exact (hattempt.keeps ih).steady

end Store

end GoAssist
