import GoAssist.Files.FileSystem
import Mathlib.Data.List.Basic

/-!
# Where paths lead

A path names a place: the location at which its last entry stands or could stand. Only directories
decide which one (`place_of_keepsDirectories`), because all steps but the last lead through
directories, and the last is not looked up. So a path names the same place before and after a file is
written, and what stands there is what a look-up finds (`find_eq_ok_iff`). With that, a file that was
written is read back with its content, unless the path leads to a device that forgets what is written
to it (`readText_writeFile`).
-/

namespace GoAssist

namespace FileSystem

variable {files after : FileSystem} {working location next : Location} {path : String}

/-! ## Steps along a path -/

/-- A step is taken from a directory, and a step to a name if the name may stand there and does. -/
theorem enter_eq_ok_iff {step : Component} : files.enter location step = .ok next
    ↔ files.node? location = some .directory ∧ next = location.move step
      ∧ ∀ text, step = .name text →
          text.utf8ByteSize ≤ maxNameSize ∧ (files.node? (text :: location)).isSome := by
  cases step with
  | current => unfold enter; grind [Location.move]
  | parent => unfold enter; grind [Location.move]
  | name text => unfold enter; grind [Location.move]

theorem walk_cons (step : Component) (steps : List Component) :
    files.walk location (step :: steps)
      = (files.enter location step).bind fun next => files.walk next steps := rfl

theorem walk_concat (steps : List Component) (step : Component) :
    files.walk location (steps ++ [step])
      = (files.walk location steps).bind fun next => files.enter next step := by
  rw [walk, List.foldlM_append]
  refine congrArg (Except.bind _) (funext fun next => ?_)
  rw [List.foldlM_cons]
  cases files.enter next step <;> rfl

theorem bind_eq_ok_iff {ε α β : Type} {first : Except ε α} {then_ : α → Except ε β} {b : β} :
    first.bind then_ = .ok b ↔ ∃ a, first = .ok a ∧ then_ a = .ok b := by
  cases first <;> simp [Except.bind]

theorem walk_cons_eq_ok_iff {step : Component} {steps : List Component} :
    files.walk location (step :: steps) = .ok next
      ↔ ∃ between, files.enter location step = .ok between ∧ files.walk between steps = .ok next := by
  rw [walk_cons, bind_eq_ok_iff]

theorem walk_concat_eq_ok_iff {steps : List Component} {step : Component} :
    files.walk location (steps ++ [step]) = .ok next
      ↔ ∃ above, files.walk location steps = .ok above ∧ files.enter above step = .ok next := by
  rw [walk_concat, bind_eq_ok_iff]

/-- A walk to a directory begins at one. -/
theorem node?_of_walk {steps : List Component} (h : files.walk location steps = .ok next)
    (hnext : files.node? next = some .directory) : files.node? location = some .directory := by
  cases steps with
  | nil => exact (Except.ok.inj h).symm ▸ hnext
  | cons step steps =>
      obtain ⟨between, henter, -⟩ := walk_cons_eq_ok_iff.mp h
      exact (enter_eq_ok_iff.mp henter).1

/-! ## Directories decide -/

/-- Every directory stays one. -/
def KeepsDirectories (files after : FileSystem) : Prop :=
  ∀ location, files.node? location = some .directory → after.node? location = some .directory

/-- A walk to a directory leads through directories only. -/
theorem walk_of_keepsDirectories (hkeeps : files.KeepsDirectories after) {steps : List Component}
    (h : files.walk location steps = .ok next) (hnext : files.node? next = some .directory) :
    after.walk location steps = .ok next := by
  induction steps generalizing location with
  | nil => exact h
  | cons step steps ih =>
      obtain ⟨between, henter, hrest⟩ := walk_cons_eq_ok_iff.mp h
      obtain ⟨hlocation, hbetween, hname⟩ := enter_eq_ok_iff.mp henter
      refine walk_cons_eq_ok_iff.mpr ⟨between, enter_eq_ok_iff.mpr
        ⟨hkeeps _ hlocation, hbetween, fun text htext => ⟨(hname text htext).1, ?_⟩⟩, ih hrest⟩
      -- What is entered on the way to a directory is a directory itself.
      subst htext
      have hdirectory := hkeeps _ (node?_of_walk hrest hnext)
      rw [hbetween, Location.move] at hdirectory
      rw [hdirectory, Option.isSome_some]

/-- How a path comes to its place: by a name in a directory, or by steps of which the last is no
name. -/
inductive PlaceOf (files : FileSystem) (working : Location) (path : String) : Location → Prop
  /-- The last step is a name that may stand in the directory to which the others lead. -/
  | entry {steps : List Component} {text : String} {directory : Location}
      (components : Path.components path = steps ++ [.name text])
      (walk : files.walk (origin working path) steps = .ok directory)
      (node : files.node? directory = some .directory) (size : text.utf8ByteSize ≤ maxNameSize) :
      PlaceOf files working path (text :: directory)
  /-- There are no steps. -/
  | start (components : Path.components path = []) : PlaceOf files working path (origin working path)
  /-- The last step is taken in the directory to which the others lead, and is no name. -/
  | move {steps : List Component} {step : Component} {directory : Location}
      (components : Path.components path = steps ++ [step]) (no_name : ∀ text, step ≠ .name text)
      (walk : files.walk (origin working path) steps = .ok directory)
      (node : files.node? directory = some .directory) :
      PlaceOf files working path (directory.move step)

/-- Where a walk ends is the place of its path. -/
theorem placeOf_of_walk
    (h : files.walk (origin working path) (Path.components path) = .ok location) :
    files.PlaceOf working path location := by
  rcases List.eq_nil_or_concat' (Path.components path) with hnil | ⟨steps, step, hconcat⟩
  · rw [hnil] at h
    cases h
    exact .start hnil
  · rw [hconcat] at h
    obtain ⟨directory, hwalk, henter⟩ := walk_concat_eq_ok_iff.mp h
    obtain ⟨hnode, rfl, hname⟩ := enter_eq_ok_iff.mp henter
    cases step with
    | name text => exact .entry hconcat hwalk hnode (hname text rfl).1
    | current => exact .move hconcat (fun _ => Component.noConfusion) hwalk hnode
    | parent => exact .move hconcat (fun _ => Component.noConfusion) hwalk hnode

theorem walk_of_move {steps : List Component} {step : Component} {directory : Location}
    (hcomponents : Path.components path = steps ++ [step]) (hname : ∀ text, step ≠ .name text)
    (hwalk : files.walk (origin working path) steps = .ok directory)
    (hnode : files.node? directory = some .directory) :
    files.walk (origin working path) (Path.components path) = .ok (directory.move step) := by
  rw [hcomponents]
  exact walk_concat_eq_ok_iff.mpr ⟨directory, hwalk,
    enter_eq_ok_iff.mpr ⟨hnode, rfl, fun text htext => absurd htext (hname text)⟩⟩

/-- A walk ends at the place of its path, if anything stands there. -/
theorem PlaceOf.walk_components (h : files.PlaceOf working path location)
    (hsome : (files.node? location).isSome) :
    files.walk (origin working path) (Path.components path) = .ok location := by
  cases h with
  | entry hcomponents hwalk hnode hsize =>
      rw [hcomponents]
      exact walk_concat_eq_ok_iff.mpr ⟨_, hwalk, enter_eq_ok_iff.mpr
        ⟨hnode, rfl, fun text htext => Component.name.inj htext ▸ ⟨hsize, hsome⟩⟩⟩
  | start hcomponents =>
      rw [hcomponents]
      rfl
  | move hcomponents hname hwalk hnode => exact walk_of_move hcomponents hname hwalk hnode

theorem place_eq_bind (files : FileSystem) (working : Location) (path : String) :
    files.place working path = (checkPath path).bind fun _ =>
      match (Path.components path).getLast? with
      | some (.name text) => (files.walk (origin working path) (Path.components path).dropLast).bind
          fun directory => match files.node? directory with
            | some .directory =>
              if maxNameSize < text.utf8ByteSize then .error .tooLong
              else .ok (text :: directory, files.node? (text :: directory))
            | some _ => .error .notDirectory
            | none => .error .notFound
      | _ => (files.walk (origin working path) (Path.components path)).bind
          fun location => .ok (location, files.node? location) := rfl

/-- A place is what the steps of the path come to, with what stands there. -/
theorem place_eq_ok_iff {node : Option Node} : files.place working path = .ok (location, node)
    ↔ checkPath path = .ok () ∧ node = files.node? location
      ∧ files.PlaceOf working path location := by
  rw [place_eq_bind, bind_eq_ok_iff]
  constructor
  · rintro ⟨⟨⟩, hcheck, h⟩
    refine ⟨hcheck, ?_⟩
    split at h
    · rename_i text hlast
      obtain ⟨directory, hwalk, h⟩ := bind_eq_ok_iff.mp h
      split at h
      · rename_i hnode
        split at h
        · cases h
        · rename_i hsize
          cases h
          exact ⟨rfl, .entry (List.dropLast_append_getLast? _ hlast).symm hwalk hnode
            (Nat.le_of_not_lt hsize)⟩
      · cases h
      · cases h
    · obtain ⟨stop, hwalk, h⟩ := bind_eq_ok_iff.mp h
      cases h
      exact ⟨rfl, placeOf_of_walk hwalk⟩
  · rintro ⟨hcheck, rfl, h⟩
    refine ⟨(), hcheck, ?_⟩
    cases h with
    | entry hcomponents hwalk hnode hsize =>
        simp [hcomponents, hwalk, hnode, Nat.not_lt_of_le hsize, Except.bind]
    | start hcomponents => simp [hcomponents, walk, Except.bind, pure, Except.pure]
    | @move steps step directory hcomponents hname hwalk hnode =>
        have hall := walk_of_move hcomponents hname hwalk hnode
        rw [hcomponents, List.getLast?_concat]
        cases step with
        | name text => exact absurd rfl (hname text)
        | current => rw [← hcomponents, hall]; rfl
        | parent => rw [← hcomponents, hall]; rfl

/-- Directories decide to which place a path leads. -/
theorem PlaceOf.of_keepsDirectories (hkeeps : files.KeepsDirectories after)
    (h : files.PlaceOf working path location) : after.PlaceOf working path location := by
  cases h with
  | entry hcomponents hwalk hnode hsize =>
      exact .entry hcomponents (walk_of_keepsDirectories hkeeps hwalk hnode) (hkeeps _ hnode) hsize
  | start hcomponents => exact .start hcomponents
  | move hcomponents hname hwalk hnode =>
      exact .move hcomponents hname (walk_of_keepsDirectories hkeeps hwalk hnode) (hkeeps _ hnode)

theorem place_of_keepsDirectories (hkeeps : files.KeepsDirectories after) {node : Option Node}
    (h : files.place working path = .ok (location, node)) :
    after.place working path = .ok (location, after.node? location) := by
  obtain ⟨hcheck, -, hplace⟩ := place_eq_ok_iff.mp h
  exact place_eq_ok_iff.mpr ⟨hcheck, rfl, hplace.of_keepsDirectories hkeeps⟩

theorem find_eq_bind (files : FileSystem) (working : Location) (path : String) :
    files.find working path = (checkPath path).bind fun _ =>
      (files.walk (origin working path) (Path.components path)).bind fun location =>
        match files.node? location with
        | some node => .ok (location, node)
        | none => .error .notFound := rfl

/-- What is found on a path is what stands at its place. -/
theorem find_eq_ok_iff {node : Node} : files.find working path = .ok (location, node)
    ↔ files.place working path = .ok (location, some node) := by
  rw [find_eq_bind, bind_eq_ok_iff, place_eq_ok_iff]
  constructor
  · rintro ⟨⟨⟩, hcheck, h⟩
    obtain ⟨stop, hwalk, h⟩ := bind_eq_ok_iff.mp h
    split at h
    · rename_i hnode
      cases h
      exact ⟨hcheck, hnode.symm, placeOf_of_walk hwalk⟩
    · cases h
  · rintro ⟨hcheck, hnode, hplace⟩
    refine ⟨(), hcheck, ?_⟩
    rw [hplace.walk_components (by rw [← hnode, Option.isSome_some]), Except.bind, ← hnode]

/-! ## Writing a file -/

/-- Filling changes a file or makes one, or the content is forgotten. -/
theorem fill_cases {content : ByteArray} (h : files.fill location content = .ok after) :
    (files.node? location = some .sink ∧ after = files)
      ∨ (files.node? location ≠ some .directory
        ∧ ∃ executable, after = files.set location (some (.file content executable))) := by
  unfold fill at h
  split at h
  · rename_i hnode
    cases h
    exact .inr ⟨by simp [hnode], false, rfl⟩
  · rename_i executable hnode
    cases h
    exact .inr ⟨by simp [hnode], executable, rfl⟩
  · cases h
  · rename_i hnode
    cases h
    exact .inl ⟨hnode, rfl⟩

theorem writeFile_eq_ok_iff {content : ByteArray} : files.writeFile working path content = .ok after
    ↔ ∃ location, files.place working path = .ok (location, files.node? location)
      ∧ files.fill location content = .ok after := by
  have hunfold : files.writeFile working path content = (files.place working path).bind
      fun place => files.fill place.1 content := rfl
  rw [hunfold, bind_eq_ok_iff]
  constructor
  · rintro ⟨⟨location, node⟩, hplace, hfill⟩
    obtain ⟨-, rfl, -⟩ := place_eq_ok_iff.mp hplace
    exact ⟨location, hplace, hfill⟩
  · rintro ⟨location, hplace, hfill⟩
    exact ⟨_, hplace, hfill⟩

theorem keepsDirectories_fill {content : ByteArray} (h : files.fill location content = .ok after) :
    files.KeepsDirectories after ∧ after.KeepsDirectories files := by
  rcases fill_cases h with ⟨-, rfl⟩ | ⟨hnode, executable, rfl⟩
  · exact ⟨fun _ => id, fun _ => id⟩
  · constructor
    · intro other hother
      rw [node?_set, if_neg (by rintro rfl; exact hnode hother), hother]
    · intro other hother
      rw [node?_set] at hother
      split at hother
      · cases hother
      · exact hother

/-- Whether a path leads to a file that forgets what is written to it. -/
def isSink (files : FileSystem) (working : Location) (path : String) : Bool :=
  match files.find working path with
  | .ok (_, .sink) => true
  | _ => false

theorem isSink_eq_true_iff : files.isSink working path = true
    ↔ ∃ location, files.find working path = .ok (location, .sink) := by
  rw [isSink]
  constructor
  · intro h
    split at h
    · rename_i location hfind
      exact ⟨location, hfind⟩
    · cases h
  · rintro ⟨location, hfind⟩
    rw [hfind]

/-- A file that forgets what is written to it did so before. -/
theorem isSink_of_writeFile {content : ByteArray}
    (h : files.writeFile working path content = .ok after)
    (hsink : after.isSink working path = true) : files.isSink working path = true := by
  obtain ⟨location, hplace, hfill⟩ := writeFile_eq_ok_iff.mp h
  rcases fill_cases hfill with ⟨-, rfl⟩ | ⟨-, executable, rfl⟩
  · exact hsink
  · -- The place holds a file now, so the path does not lead to a device.
    have hafter := place_of_keepsDirectories (keepsDirectories_fill hfill).1 hplace
    rw [node?_set, if_pos rfl, ← find_eq_ok_iff] at hafter
    obtain ⟨stop, hfind⟩ := isSink_eq_true_iff.mp hsink
    rw [hafter] at hfind
    cases hfind

theorem readText_of_find_sink (h : files.find working path = .ok (location, .sink)) :
    files.readText working path = .ok "" := by
  rw [readText, readBytes, h]
  rfl

theorem readText_of_find_file {text : String} {executable : Bool}
    (h : files.find working path = .ok (location, .file text.toUTF8 executable)) :
    files.readText working path = .ok text := by
  have hdecode : String.fromUTF8? text.toUTF8 = some text := dif_pos text.isValidUTF8
  rw [readText, readBytes, h]
  simp only [bind, Except.bind, hdecode]

/-- A text that was written is read back, unless it was forgotten. -/
theorem readText_writeFile {text : String}
    (h : files.writeFile working path text.toUTF8 = .ok after) :
    after.readText working path = .ok (if after.isSink working path then "" else text) := by
  obtain ⟨location, hplace, hfill⟩ := writeFile_eq_ok_iff.mp h
  have hafter := place_of_keepsDirectories (keepsDirectories_fill hfill).1 hplace
  rcases fill_cases hfill with ⟨hnode, rfl⟩ | ⟨-, executable, rfl⟩
  · rw [hnode, ← find_eq_ok_iff] at hafter
    rw [readText_of_find_sink hafter, isSink, hafter]
    rfl
  · rw [node?_set, if_pos rfl, ← find_eq_ok_iff] at hafter
    rw [readText_of_find_file hafter, isSink, hafter]
    rfl

/-- The location that a path names. -/
def location? (files : FileSystem) (working : Location) (path : String) : Option Location :=
  (files.place working path).toOption.map Prod.fst

/-- Two paths name one location. -/
def SamePlace (files : FileSystem) (working : Location) (first second : String) : Prop :=
  (files.location? working first).isSome
    ∧ files.location? working first = files.location? working second

instance (files : FileSystem) (working : Location) (first second : String) :
    Decidable (files.SamePlace working first second) :=
  inferInstanceAs (Decidable (_ ∧ _))

theorem location?_eq_some_iff : files.location? working path = some location
    ↔ files.place working path = .ok (location, files.node? location) := by
  rw [location?]
  cases hplace : files.place working path with
  | error error => simp [Except.toOption]
  | ok place =>
      obtain ⟨-, hnode, -⟩ := place_eq_ok_iff.mp hplace
      simp only [Except.toOption, Option.map_some, Option.some.injEq, Except.ok.injEq]
      constructor
      · rintro rfl
        rw [← hnode]
      · rintro rfl
        rfl

theorem location?_of_keepsDirectories (hkeeps : files.KeepsDirectories after)
    (h : files.location? working path = some location) :
    after.location? working path = some location :=
  location?_eq_some_iff.mpr (place_of_keepsDirectories hkeeps (location?_eq_some_iff.mp h))

/-- Paths name one location as long as the directories are the same. -/
theorem SamePlace.of_keepsDirectories {first second : String} (hkeeps : files.KeepsDirectories after)
    (h : files.SamePlace working first second) : after.SamePlace working first second := by
  obtain ⟨location, hfirst⟩ := Option.isSome_iff_exists.mp h.1
  have hsecond := h.2 ▸ hfirst
  rw [SamePlace, location?_of_keepsDirectories hkeeps hfirst,
    location?_of_keepsDirectories hkeeps hsecond]
  exact ⟨rfl, rfl⟩

theorem isFile_eq_true_iff : files.isFile working path = true
    ↔ ∃ location content executable, files.location? working path = some location
      ∧ files.node? location = some (.file content executable) := by
  rw [isFile]
  constructor
  · intro h
    split at h
    · rename_i location content executable hfind
      have hplace := find_eq_ok_iff.mp hfind
      obtain ⟨-, hnode, -⟩ := place_eq_ok_iff.mp hplace
      exact ⟨location, content, executable,
        location?_eq_some_iff.mpr (hnode ▸ hplace), hnode.symm⟩
    · cases h
  · rintro ⟨location, content, executable, hlocation, hnode⟩
    have hplace := location?_eq_some_iff.mp hlocation
    rw [hnode, ← find_eq_ok_iff] at hplace
    rw [hplace]

/-- Writing a file leaves what stands at other locations. -/
theorem isFile_writeFile {other : String} {content : ByteArray}
    (h : files.writeFile working path content = .ok after)
    (hother : ¬files.SamePlace working other path) :
    after.isFile working other = files.isFile working other := by
  obtain ⟨location, hplace, hfill⟩ := writeFile_eq_ok_iff.mp h
  obtain ⟨hkeeps, hback⟩ := keepsDirectories_fill hfill
  have hleft : ∀ {stop}, files.location? working other = some stop →
      after.node? stop = files.node? stop := by
    intro stop hstop
    refine node?_fill_of_ne hfill fun heq => hother ⟨?_, ?_⟩
    · rw [hstop, Option.isSome_some]
    · rw [hstop, heq, location?_eq_some_iff.mpr hplace]
  rw [Bool.eq_iff_iff, isFile_eq_true_iff, isFile_eq_true_iff]
  constructor
  · rintro ⟨stop, content, executable, hstop, hnode⟩
    have hbefore := location?_of_keepsDirectories hback hstop
    exact ⟨stop, content, executable, hbefore, hleft hbefore ▸ hnode⟩
  · rintro ⟨stop, content, executable, hstop, hnode⟩
    exact ⟨stop, content, executable, location?_of_keepsDirectories hkeeps hstop,
      (hleft hstop).trans hnode⟩

end FileSystem

end GoAssist
