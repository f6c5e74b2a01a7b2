import GoAssist.Files.Standard
import GoAssist.Proofs.Files.Place
import GoAssist.Proofs.Json.Strings
import GoAssist.Settings.Store

/-!
# Saved settings are loaded again

Settings are written as an object of strings, so reading their text gives them back whatever
characters the paths hold (`ofText?_toText`). Saving makes directories and then writes one file
(`saveText_cases`), and a file that was written is read back. What is loaded after a save is therefore
what was saved (`load_after_save`), with a Go path that is not set looked for as always.

Two things stand in the way (`not_forall_load_after_save`). The path of the file may lead to a device
that forgets what is written to it: there every save succeeds and no load does. And a file may be open
for writing only, or not be readable for another reason that does not lie in the files (`MayRead`): then
the load fails as inaccessible.
-/

namespace GoAssist

namespace Settings

/-- Settings are an object of strings. -/
theorem toJson_eq_ofStringMembers (settings : Settings) :
    settings.toJson = Json.ofStringMembers (("goPath", settings.goPath)
      :: settings.workspaceFolder.toList.map fun folder => ("workspaceFolder", folder)) := by
  cases hfolder : settings.workspaceFolder <;> simp [toJson, Json.ofStringMembers, hfolder]

/-- The text of settings spells them. -/
theorem ofText?_toText (settings : Settings) : ofText? settings.toText = some settings := by
  rw [ofText?, toText, toJson_eq_ofStringMembers, ofText?_pretty_ofStringMembers, Option.bind_some]
  obtain ⟨path, folder⟩ := settings
  cases folder <;>
    simp [ofRawJson?, writtenMembers, Draft.add, RawString.decode_written, goPath?,
      workspaceFolder?, Draft.settings]

end Settings

namespace Store

variable {store : Store} {machine : Machine} {settings : Settings}

/-- The machine with the directories made in which the settings file is to stand, or with those of
them that can be made. -/
def prepared (store : Store) (machine : Machine) : Machine :=
  machine.withFiles (machine.files.makeParents machine.working store.path).1

/-- What reading the settings file may come to: what the files say, or a failure for a reason that does
not lie in the files, though never that nothing stands there. -/
inductive MayRead (store : Store) (machine : Machine) : Except FileError String → Prop
  | found : MayRead store machine (store.read machine)
  | refused (error : FileError) (not_missing : error ≠ .notFound) : MayRead store machine (.error error)

/-- Saving makes the directories, and writes the file unless that cannot be done or there is no text to
write. -/
theorem saveText_cases (store : Store) (machine : Machine) (text? : Option String) :
    (∃ error, store.saveText machine text? = ⟨(store.prepared machine).files, .error error⟩)
      ∨ ∃ text after, text? = some text
        ∧ (machine.files.makeParents machine.working store.path).2 = .ok ()
        ∧ (store.prepared machine).files.writeFile machine.working store.path text.toUTF8 = .ok after
        ∧ store.saveText machine text? = ⟨after, .ok ()⟩ := by
  simp only [saveText, prepared, Machine.withFiles]
  split
  · rename_i files error hmade
    exact .inl ⟨_, by rw [hmade]⟩
  · rename_i files hmade
    rw [hmade]
    cases text? with
    | none => exact .inl ⟨_, rfl⟩
    | some text =>
        dsimp only
        split
        · exact .inl ⟨_, rfl⟩
        · rename_i after hwrite
          exact .inr ⟨text, after, rfl, rfl, hwrite, rfl⟩

theorem save_cases (store : Store) (machine : Machine) (settings : Settings) :
    (∃ error, store.save machine settings = ⟨(store.prepared machine).files, .error error⟩)
      ∨ ∃ after, (machine.files.makeParents machine.working store.path).2 = .ok ()
        ∧ (store.prepared machine).files.writeFile machine.working store.path settings.toText.toUTF8
          = .ok after
        ∧ store.save machine settings = ⟨after, .ok ()⟩ := by
  rcases saveText_cases store machine (some settings.toText) with hfailed | ⟨text, after, htext, hsaved⟩
  · exact .inl hfailed
  · obtain rfl := Option.some.inj htext
    exact .inr ⟨after, hsaved⟩

theorem loadStored_of_read {text : String} (h : store.read machine = .ok text) :
    store.loadStored machine = match Settings.ofText? text with
      | some settings => .ok settings
      | none => .error (.malformed store.path) := by
  rw [loadStored, h]
  rfl

/-- Only a file that is missing is taken for settings in which nothing is set. -/
theorem loadFrom_of_error {error : FileError} (h : error ≠ .notFound) :
    store.loadFrom machine (.error error) = .error (.inaccessible store.path) := by
  cases error with
  | notFound => exact absurd rfl h
  | _ => rfl

theorem loadFrom_of_malformed {text : String} (h : Settings.ofText? text = none) :
    store.loadFrom machine (.ok text) = .error (.malformed store.path) := by
  simp only [loadFrom, storedFrom, h]
  rfl

/-- A Go path that is not set is looked for. -/
theorem load_of_loadStored (h : store.loadStored machine = .ok settings) :
    store.load machine = .ok ⟨if settings.goPath = "" then machine.detectGoPath?.getD ""
      else settings.goPath, settings.workspaceFolder⟩ := by
  rw [loadStored] at h
  rw [load, loadFrom, h]
  by_cases hempty : settings.goPath = "" <;>
    simp [bind, Except.bind, pure, Except.pure, hempty, String.isEmpty_iff]

theorem load_of_loadStored_error {error : SettingsError} (h : store.loadStored machine = .error error) :
    store.load machine = .error error := by
  rw [loadStored] at h
  rw [load, loadFrom, h]
  rfl

/-- What was saved stands in the file, unless the file forgets. -/
theorem loadStored_after_save (h : (store.save machine settings).outcome = .ok ()) :
    store.loadStored (machine.withFiles (store.save machine settings).files)
      = if (store.save machine settings).files.isSink machine.working store.path
        then .error (.malformed store.path) else .ok settings := by
  rcases save_cases store machine settings with ⟨error, hfailed⟩ | ⟨files, -, hwrite, hsaved⟩
  · rw [hfailed] at h
    cases h
  · have hread := FileSystem.readText_writeFile hwrite
    have hempty : Settings.ofText? "" = none := rfl
    rw [hsaved, show store.loadStored (machine.withFiles files) = _ from loadStored_of_read hread]
    by_cases hsink : files.isSink machine.working store.path = true
    · rw [if_pos hsink, if_pos hsink, hempty]
    · rw [if_neg hsink, if_neg hsink, Settings.ofText?_toText]

/-- After a save, the settings that were saved are loaded: the same folder or none, and the same Go
path, which is looked for if it is empty. Only where the path leads to a file that forgets what is
written to it the load fails, and where the file cannot be read: as that is no missing file, the load
fails as inaccessible. -/
theorem load_after_save (h : (store.save machine settings).outcome = .ok ()) :
    let after := machine.withFiles (store.save machine settings).files
    store.load after
      = (if after.files.isSink after.working store.path then .error (.malformed store.path)
        else .ok ⟨if settings.goPath = "" then after.detectGoPath?.getD "" else settings.goPath,
          settings.workspaceFolder⟩)
    ∧ ∀ reading, store.MayRead after reading →
        store.loadFrom after reading = store.load after
        ∨ ∃ error, reading = .error error
          ∧ store.loadFrom after reading = .error (.inaccessible store.path) := by
  intro after
  constructor
  · have hstored : store.loadStored after
        = if after.files.isSink after.working store.path then .error (.malformed store.path)
          else .ok settings := loadStored_after_save h
    by_cases hsink : after.files.isSink after.working store.path = true
    · rw [if_pos hsink] at hstored ⊢
      exact load_of_loadStored_error hstored
    · rw [if_neg hsink] at hstored ⊢
      exact load_of_loadStored hstored
  · intro reading hreading
    cases hreading with
    | found => exact .inl rfl
    | refused error hfound => exact .inr ⟨error, rfl, loadFrom_of_error hfound⟩

/-- A path of all kinds of characters and an empty folder, saved where the directory is missing, and
loaded with the right to read the file and without it. -/
theorem load_after_save_escaped :
    let store : Store := ⟨"/a/b.json"⟩
    let machine : Machine := ⟨⟨[([], .directory)]⟩, [], []⟩
    let settings : Settings := ⟨"/\"\\\n\x01\x7fé😀", some ""⟩
    let after := machine.withFiles (store.save machine settings).files
    (store.save machine settings).outcome = .ok () ∧ store.load after = .ok settings
    ∧ store.MayRead after (.error .denied)
    ∧ store.loadFrom after (.error .denied) = .error (.inaccessible "/a/b.json") := by
  intro store machine settings after
  have hsaved : (store.save machine settings).outcome = .ok () := by decide +kernel
  have hkept : after.files.isSink after.working store.path = false := by decide +kernel
  have hdenied : store.MayRead after (.error .denied) := .refused .denied (by decide)
  obtain ⟨hload, hreads⟩ := load_after_save hsaved
  have hloads : store.load after = .ok settings := hload.trans (by rw [hkept]; rfl)
  refine ⟨hsaved, hloads, hdenied, ?_⟩
  rcases hreads _ hdenied with hsame | ⟨error, -, hfails⟩
  · rw [hloads] at hsame
    cases hsame
  · exact hfails

/-- Settings that were saved to a file that forgets them are not loaded again, nor are those in a file
that may be written but not read. -/
theorem not_forall_load_after_save :
    (¬∀ (store : Store) (machine : Machine) (settings : Settings),
      (store.save machine settings).outcome = .ok () →
      let after := machine.withFiles (store.save machine settings).files
      store.load after
        = .ok ⟨if settings.goPath = "" then after.detectGoPath?.getD "" else settings.goPath,
          settings.workspaceFolder⟩)
    ∧ ¬∀ (store : Store) (machine : Machine) (settings : Settings) (reading : Except FileError String),
      (store.save machine settings).outcome = .ok () →
      let after := machine.withFiles (store.save machine settings).files
      store.MayRead after reading →
      store.loadFrom after reading
        = .ok ⟨if settings.goPath = "" then after.detectGoPath?.getD "" else settings.goPath,
          settings.workspaceFolder⟩ := by
  constructor
  · intro h
    have hsaved : (Store.save ⟨"/dev/null"⟩ ⟨.usual, [], []⟩ ⟨"/opt/go/bin/go", some "/"⟩).outcome
        = .ok () := by decide +kernel
    have hfails : (Store.load ⟨"/dev/null"⟩ (Machine.withFiles ⟨.usual, [], []⟩
        (Store.save ⟨"/dev/null"⟩ ⟨.usual, [], []⟩ ⟨"/opt/go/bin/go", some "/"⟩).files)).isOk
        = false := by decide +kernel
    rw [h _ _ _ hsaved] at hfails
    cases hfails
  · intro h
    have hsaved : (Store.save ⟨"/a.json"⟩ ⟨⟨[([], .directory)]⟩, [], []⟩
        ⟨"/opt/go/bin/go", some "/"⟩).outcome = .ok () := by decide +kernel
    cases h _ _ _ _ hsaved (.refused .denied (by decide))

end Store

end GoAssist
