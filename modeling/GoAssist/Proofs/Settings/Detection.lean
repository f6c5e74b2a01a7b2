import GoAssist.Proofs.Settings.Save

/-!
# A folder that is set stores the Go path that was found

A load fills in a Go path that is not set by the one that is found, and setting the workspace folder saves
all that was loaded. So the Go path that was found is stored beside the folder
(`loadStored_setWorkspaceFolder`), and from then on it is set: later loads do not look for one, whatever
their search path. The stored Go path is kept only where one is set already or none is found
(`resolveGoPath_eq_self_iff`).

Of folders that are set one after another, with anything else on the machine changed in between
(`FolderRun`), the first that meets a Go path therefore decides what all later loads give
(`goPath_after_folders`). That a folder leaves the Go path to be looked for is refuted where one is found
(`not_forall_goPath_of_setWorkspaceFolder`).
-/

namespace GoAssist

/-! ## Paths that are set or found -/

/-- The Go path that is used where a path is stored: one that is not set is looked for. -/
def Machine.resolveGoPath (machine : Machine) (path : String) : String :=
  if path = "" then machine.detectGoPath?.getD "" else path

theorem Machine.resolveGoPath_eq_self_iff {machine : Machine} {path : String} :
    machine.resolveGoPath path = path ↔ path ≠ "" ∨ machine.detectGoPath?.getD "" = "" := by
  rw [resolveGoPath]
  by_cases hunset : path = ""
  · simp [hunset]
  · simp [hunset]

/-- The first of some paths that is set; the empty path if none is. -/
def firstSet : List String → String
  | [] => ""
  | path :: rest => if path = "" then firstSet rest else path

theorem firstSet_singleton (path : String) : firstSet [path] = path := by
  by_cases hunset : path = ""
  · rw [firstSet, if_pos hunset, hunset, firstSet]
  · rw [firstSet, if_neg hunset]

/-- A further path counts only where none is set so far. -/
theorem firstSet_concat (paths : List String) (path : String) :
    firstSet (paths ++ [path]) = if firstSet paths = "" then path else firstSet paths := by
  induction paths with
  | nil =>
      rw [List.nil_append, firstSet_singleton, firstSet, if_pos rfl]
  | cons first rest ih =>
      rw [List.cons_append, firstSet, firstSet, ih]
      by_cases hunset : first = ""
      · rw [if_pos hunset, if_pos hunset]
      · rw [if_neg hunset, if_neg hunset, if_neg hunset]

namespace Store

variable {store : Store} {machine : Machine}

/-! ## One folder -/

/-- A folder that is set was saved with the Go path that was loaded. -/
theorem setWorkspaceFolder_ok {folder : String} {result : Settings}
    (h : (store.setWorkspaceFolder machine folder).outcome = .ok result) :
    ∃ stored, store.loadStored machine = .ok stored
      ∧ result = ⟨machine.resolveGoPath stored.goPath, some folder⟩
      ∧ (store.save machine result).outcome = .ok ()
      ∧ (store.setWorkspaceFolder machine folder).files = (store.save machine result).files := by
  rw [setWorkspaceFolder] at h ⊢
  split at h
  · rename_i hfolder
    rw [if_pos hfolder]
    cases hstored : store.loadStored machine with
    | error error =>
        rw [modify, modifyBy_of_load_error (load_of_loadStored_error hstored)] at h
        cases h
    | ok stored =>
        have hload : store.load machine
            = .ok ⟨machine.resolveGoPath stored.goPath, stored.workspaceFolder⟩ :=
          load_of_loadStored hstored
        rw [modify, modifyBy_of_load_ok hload] at h ⊢
        cases hsave : (store.save machine
            ⟨machine.resolveGoPath stored.goPath, some folder⟩).outcome with
        | error error =>
            rw [hsave] at h
            cases h
        | ok =>
            rw [hsave] at h
            obtain rfl := Except.ok.inj h
            exact ⟨stored, rfl, rfl, hsave, rfl⟩
  · cases h

/-- What is stored after a folder was set: the folder, and the Go path that was stored or found. -/
theorem loadStored_setWorkspaceFolder {folder : String} {result : Settings}
    (h : (store.setWorkspaceFolder machine folder).outcome = .ok result) :
    let after := machine.withFiles (store.setWorkspaceFolder machine folder).files
    ∃ stored, store.loadStored machine = .ok stored
      ∧ store.loadStored after
        = if after.files.isSink after.working store.path then .error (.malformed store.path)
          else .ok ⟨machine.resolveGoPath stored.goPath, some folder⟩ := by
  intro after
  obtain ⟨stored, hstored, hresult, hsave, hfiles⟩ := setWorkspaceFolder_ok h
  have hloaded := loadStored_after_save hsave
  rw [← hfiles] at hloaded
  refine ⟨stored, hstored, ?_⟩
  rw [← hresult]
  exact hloaded

/-! ## Folders in sequence -/

/-- Folders are set one after another, and the settings file keeps what is written to it. In between
anything may change but what is stored in the file, the search path and all other files included. The list
has the Go path that each call found, or the empty path. -/
inductive FolderRun (store : Store) (start : Machine) : List String → Machine → Prop
  | start : FolderRun store start [] start
  | elsewhere {found : List String} {machine after : Machine} (run : FolderRun store start found machine)
      (same : store.loadStored after = store.loadStored machine) : FolderRun store start found after
  | folder {found : List String} {machine : Machine} {folder : String} {result : Settings}
      (run : FolderRun store start found machine)
      (set : (store.setWorkspaceFolder machine folder).outcome = .ok result)
      (keeps : (store.setWorkspaceFolder machine folder).files.isSink machine.working store.path = false) :
      FolderRun store start (found ++ [machine.detectGoPath?.getD ""])
        (machine.withFiles (store.setWorkspaceFolder machine folder).files)

/-- The Go path that is stored is the first that was set or found. -/
theorem FolderRun.loadStored {start : Machine} {initial : Settings} {found : List String}
    (hrun : store.FolderRun start found machine) (hstored : store.loadStored start = .ok initial) :
    ∃ folder, store.loadStored machine = .ok ⟨firstSet (initial.goPath :: found), folder⟩ := by
  induction hrun with
  | start =>
      refine ⟨initial.workspaceFolder, ?_⟩
      rw [hstored, firstSet_singleton]
  | elsewhere _ same ih =>
      obtain ⟨folder, hbefore⟩ := ih
      exact ⟨folder, same.trans hbefore⟩
  | @folder found machine folder _ _ set keeps ih =>
      obtain ⟨before, hbefore⟩ := ih
      obtain ⟨stored, hstored, hafter⟩ := loadStored_setWorkspaceFolder set
      obtain rfl := Except.ok.inj (hbefore.symm.trans hstored)
      refine ⟨some folder, hafter.trans ?_⟩
      simp only [Machine.withFiles, keeps, Bool.false_eq_true, if_false]
      rw [← List.cons_append, firstSet_concat, Machine.resolveGoPath]

/-- A folder that is set stores beside it the Go path that was stored or, if none was, the one that is
found, unless the path of the settings file leads to a device that forgets what is written to it; so it
leaves the stored Go path exactly if one is set or none is found. After any folders, whatever else has
changed in between, the stored Go path is the first that was set or found, a path that was set at first
before all others; a load gives it, and looks for one only if there is none. -/
theorem goPath_after_folders (store : Store) :
    (∀ machine folder result, (store.setWorkspaceFolder machine folder).outcome = .ok result →
      let after := machine.withFiles (store.setWorkspaceFolder machine folder).files
      ∃ stored, store.loadStored machine = .ok stored
        ∧ store.loadStored after
          = (if after.files.isSink after.working store.path then .error (.malformed store.path)
            else .ok ⟨machine.resolveGoPath stored.goPath, some folder⟩)
        ∧ (machine.resolveGoPath stored.goPath = stored.goPath
          ↔ stored.goPath ≠ "" ∨ machine.detectGoPath?.getD "" = ""))
    ∧ ∀ start found machine, store.FolderRun start found machine →
        ∀ initial, store.loadStored start = .ok initial →
        let goPath := firstSet (initial.goPath :: found)
        ∃ folder, store.loadStored machine = .ok ⟨goPath, folder⟩
          ∧ store.load machine = .ok ⟨machine.resolveGoPath goPath, folder⟩ := by
  constructor
  · intro machine folder result hset after
    obtain ⟨stored, hstored, hafter⟩ := loadStored_setWorkspaceFolder hset
    exact ⟨stored, hstored, hafter, Machine.resolveGoPath_eq_self_iff⟩
  · intro start found machine hrun initial hstored goPath
    obtain ⟨folder, hbefore⟩ := hrun.loadStored hstored
    exact ⟨folder, hbefore, load_of_loadStored hbefore⟩

/-- A folder is set where no Go program is found, and again where one is. After that the search path no
longer counts. -/
theorem goPath_after_folders_found_later :
    let store : Store := ⟨"/a.json"⟩
    let program : Node := .file .empty true
    let start : Machine := ⟨⟨[([], .directory), (["bin"], .directory), (["go"], program),
      (["go", "bin"], program)]⟩, [], []⟩
    let first := start.withFiles (store.setWorkspaceFolder start "/").files
    let second : Machine := { first with environment := [("PATH", "/")] }
    let third := second.withFiles (store.setWorkspaceFolder second "/bin").files
    let last : Machine := { third with environment := [("PATH", "/bin")] }
    (∃ folder, store.loadStored first = .ok ⟨"", folder⟩)
      ∧ last.detectGoPath? = some "/bin/go"
      ∧ ∃ folder, store.load last = .ok ⟨"/go", folder⟩ := by
  intro store program start first second third last
  have hstored : store.loadStored start = .ok ⟨"", none⟩ := by decide +kernel
  have hset : (store.setWorkspaceFolder start "/").outcome = .ok ⟨"", some "/"⟩ := by decide +kernel
  have hset' : (store.setWorkspaceFolder second "/bin").outcome = .ok ⟨"/go", some "/bin"⟩ := by
    decide +kernel
  have hkeeps : first.files.isSink [] "/a.json" = false
      ∧ third.files.isSink [] "/a.json" = false := by decide +kernel
  have hfound : start.detectGoPath? = none ∧ second.detectGoPath? = some "/go"
      ∧ last.detectGoPath? = some "/bin/go" := by decide +kernel
  have hfirst : store.FolderRun start _ first := .folder .start hset hkeeps.1
  have hsecond : store.FolderRun start _ second := .elsewhere hfirst rfl
  have hlast : store.FolderRun start _ last := .elsewhere (.folder hsecond hset' hkeeps.2) rfl
  rw [hfound.1] at hfirst hlast
  rw [hfound.2.1] at hlast
  obtain ⟨folder, hunset, -⟩ := (goPath_after_folders store).2 _ _ _ hfirst _ hstored
  obtain ⟨folder', -, hload⟩ := (goPath_after_folders store).2 _ _ _ hlast _ hstored
  exact ⟨⟨folder, hunset⟩, hfound.2.2, folder', hload⟩

/-- Where a Go program is found, a folder stores its path though none was stored before, and a load under
another search path gives this path and not the one that is found then. -/
theorem not_forall_goPath_of_setWorkspaceFolder :
    (¬∀ (store : Store) (machine : Machine) (folder : String) (result stored : Settings),
      (store.setWorkspaceFolder machine folder).outcome = .ok result →
      store.loadStored machine = .ok stored →
      ∃ after, store.loadStored (machine.withFiles (store.setWorkspaceFolder machine folder).files)
          = .ok after ∧ after.goPath = stored.goPath)
    ∧ ¬∀ (store : Store) (machine : Machine) (folder : String) (result stored : Settings),
      (store.setWorkspaceFolder machine folder).outcome = .ok result →
      store.loadStored machine = .ok stored → stored.goPath = "" →
      ∀ environment : List (String × String),
        let later : Machine :=
          ⟨(store.setWorkspaceFolder machine folder).files, machine.working, environment⟩
        ∃ loaded, store.load later = .ok loaded ∧ loaded.goPath = later.detectGoPath?.getD "" := by
  let store : Store := ⟨"/a.json"⟩
  let program : Node := .file .empty false
  let machine : Machine := ⟨⟨[([], .directory), (["bin"], .directory), (["go"], program),
    (["go", "bin"], program)]⟩, [], [("PATH", "/")]⟩
  let later : Machine := ⟨(store.setWorkspaceFolder machine "/").files, [], [("PATH", "/bin")]⟩
  have hset : (store.setWorkspaceFolder machine "/").outcome = .ok ⟨"/go", some "/"⟩ := by
    decide +kernel
  have hstored : store.loadStored machine = .ok ⟨"", none⟩ := by decide +kernel
  have hafter : store.loadStored later = .ok ⟨"/go", some "/"⟩ := by decide +kernel
  constructor
  · intro h
    obtain ⟨after, hloaded, hgoPath⟩ := h store machine "/" _ _ hset hstored
    obtain rfl := Except.ok.inj (hafter.symm.trans hloaded)
    exact absurd hgoPath (by decide)
  · intro h
    obtain ⟨loaded, hloaded, hgoPath⟩ := h store machine "/" _ _ hset hstored rfl [("PATH", "/bin")]
    obtain rfl := Except.ok.inj ((load_of_loadStored hafter).symm.trans hloaded)
    have hfound : later.detectGoPath? = some "/bin/go" := by decide +kernel
    rw [show (Machine.mk _ _ _).detectGoPath? = _ from hfound] at hgoPath
    exact absurd hgoPath (by decide)

end Store

end GoAssist
