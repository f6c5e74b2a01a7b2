import GoAssist.Proofs.Files.Place

/-!
# Directories that are made

Making directories adds some and changes nothing else: the files grow (`Grows`). What a path leads to
in some files it leads to in all that grow from them, and so it is with every reason to fail but that
nothing is there (`find_of_grows`).

The directories that the same steps make depend on nothing but what was there: more files at first
lead to more files in the end (`makeDirectories_mono`), and a second time nothing is made
(`makeDirectories_makeDirectories`), nor after a file was written (`makeDirectories_of_made`). So
whoever made a part of the directories before, all of them come to no more than they would have
(`makeParents_grows_of_grows`).
-/

namespace GoAssist

namespace FileSystem

variable {files after last : FileSystem} {working location next : Location} {path : String}

/-- Directories were added where nothing was, and nothing else was changed. -/
def Grows (files after : FileSystem) : Prop :=
  ∀ location, after.node? location = files.node? location
    ∨ (files.node? location = none ∧ after.node? location = some .directory)

theorem Grows.refl (files : FileSystem) : files.Grows files :=
  fun _ => .inl rfl

theorem Grows.node?_of_some (h : files.Grows after) {node : Node}
    (hnode : files.node? location = some node) : after.node? location = some node := by
  rcases h location with hsame | ⟨hnone, -⟩
  · rw [hsame, hnode]
  · rw [hnode] at hnone
    cases hnone

theorem Grows.keepsDirectories (h : files.Grows after) : files.KeepsDirectories after :=
  fun _ => h.node?_of_some

theorem Grows.trans (h : files.Grows after) (hlast : after.Grows last) : files.Grows last := by
  intro location
  rcases h location with hsame | ⟨hnone, hmade⟩
  · rw [← hsame]
    exact hlast location
  · exact .inr ⟨hnone, hlast.node?_of_some hmade⟩

theorem grows_set (hnone : files.node? location = none) :
    files.Grows (files.set location (some .directory)) := by
  intro other
  rw [node?_set]
  split
  · rename_i heq
    exact .inr ⟨heq ▸ hnone, rfl⟩
  · exact .inl rfl

/-- A directory that is added where one is already takes nothing away. -/
theorem Grows.set_left (h : files.Grows after)
    (hdirectory : after.node? location = some .directory) :
    (files.set location (some .directory)).Grows after := by
  intro other
  rw [node?_set]
  split
  · rename_i heq
    exact .inl (heq ▸ hdirectory)
  · exact h other

/-! ## What is found as files grow -/

theorem enter_of_grows (h : files.Grows after) {step : Component}
    (hfound : files.enter location step ≠ .error .notFound) :
    after.enter location step = files.enter location step := by
  unfold enter at hfound ⊢
  cases hnode : files.node? location with
  | none => simp [hnode] at hfound
  | some node =>
      rw [h.node?_of_some hnode]
      cases node with
      | file content executable => rfl
      | sink => rfl
      | directory =>
          cases step with
          | current => rfl
          | parent => rfl
          | name text =>
              cases hchild : files.node? (text :: location) with
              | none =>
                  by_cases hsize : maxNameSize < text.utf8ByteSize
                  · simp only [hsize, if_true]
                  · simp [hnode, hsize, hchild] at hfound
              | some child => simp only [hchild, h.node?_of_some hchild, Option.isSome_some]

theorem enter_of_grows_ok (h : files.Grows after) {step : Component}
    (henter : files.enter location step = .ok next) : after.enter location step = .ok next := by
  rw [enter_of_grows h (by rw [henter]; exact fun heq => nomatch heq), henter]

theorem walk_of_grows (h : files.Grows after) {steps : List Component}
    (hfound : files.walk location steps ≠ .error .notFound) :
    after.walk location steps = files.walk location steps := by
  induction steps generalizing location with
  | nil => rfl
  | cons step steps ih =>
      rw [walk_cons] at hfound
      rw [walk_cons, walk_cons]
      cases henter : files.enter location step with
      | error error =>
          rw [enter_of_grows h (by rintro heq; rw [heq] at hfound; exact hfound rfl), henter]
          rfl
      | ok next =>
          rw [enter_of_grows_ok h henter]
          rw [henter] at hfound
          exact ih hfound

/-- What a path leads to, and why it leads nowhere, stays as the files grow, unless nothing was
there. -/
theorem find_of_grows (h : files.Grows after)
    (hfound : files.find working path ≠ .error .notFound) :
    after.find working path = files.find working path := by
  rw [find_eq_bind] at hfound
  rw [find_eq_bind, find_eq_bind]
  cases hcheck : checkPath path with
  | error error => rfl
  | ok =>
      rw [hcheck] at hfound
      have hwalk : files.walk (origin working path) (Path.components path) ≠ .error .notFound := by
        intro heq
        rw [heq] at hfound
        exact hfound rfl
      rw [walk_of_grows h hwalk]
      cases hstop : files.walk (origin working path) (Path.components path) with
      | error error => rfl
      | ok location =>
          rw [hstop] at hfound
          cases hnode : files.node? location with
          | none =>
              simp only [Except.bind, hnode] at hfound
              exact absurd rfl hfound
          | some node => simp only [Except.bind, hnode, h.node?_of_some hnode]

/-- While directories are added, a path leads to what it led to, unless it led nowhere and leads somewhere
once all of them are there. -/
theorem find_between (h : files.Grows after) (hlast : after.Grows last) :
    after.find working path = files.find working path
      ∨ files.find working path = .error .notFound ∧ last.find working path ≠ .error .notFound := by
  by_cases hfound : files.find working path = .error .notFound
  · by_cases hmiddle : after.find working path = .error .notFound
    · exact .inl (hmiddle.trans hfound.symm)
    · rw [find_of_grows hlast hmiddle]
      exact .inr ⟨hfound, hmiddle⟩
  · exact .inl (find_of_grows h hfound)

theorem readText_of_grows (h : files.Grows after)
    (hfound : files.readText working path ≠ .error .notFound) :
    after.readText working path = files.readText working path := by
  have hfind : files.find working path ≠ .error .notFound := by
    intro heq
    refine hfound ?_
    rw [readText, readBytes, heq]
    rfl
  rw [readText, readText, readBytes, readBytes, find_of_grows h hfind]

theorem isFile_of_grows (h : files.Grows after) (hfile : files.isFile working path = true) :
    after.isFile working path = true := by
  have hfind : files.find working path ≠ .error .notFound := by
    intro heq
    rw [isFile, heq] at hfile
    cases hfile
  rwa [isFile, find_of_grows h hfind]

/-! ## One step of making directories -/

theorem missingChild?_eq_some_iff {step : Component} :
    files.missingChild? location step = some next
      ↔ files.node? location = some .directory ∧ files.node? next = none
        ∧ ∃ text, step = .name text ∧ next = text :: location ∧ text.utf8ByteSize ≤ maxNameSize := by
  cases step with
  | current => unfold missingChild?; grind
  | parent => unfold missingChild?; grind
  | name text => unfold missingChild?; grind

/-- A step that can be taken needs no directory. -/
theorem missingChild?_of_enter {step : Component} (h : files.enter location step = .ok next) :
    files.missingChild? location step = none := by
  refine Option.eq_none_iff_forall_ne_some.mpr fun missing hmissing => ?_
  obtain ⟨-, -, hname⟩ := enter_eq_ok_iff.mp h
  obtain ⟨-, hnone, text, htext, rfl, -⟩ := missingChild?_eq_some_iff.mp hmissing
  have hsome := (hname text htext).2
  rw [hnone] at hsome
  cases hsome

theorem enter_of_missingChild? {step : Component} (h : files.missingChild? location step = some next)
    (hlocation : after.node? location = some .directory) (hnext : (after.node? next).isSome) :
    after.enter location step = .ok next := by
  obtain ⟨-, -, text, rfl, rfl, hsize⟩ := missingChild?_eq_some_iff.mp h
  exact enter_eq_ok_iff.mpr
    ⟨hlocation, rfl, fun name hname => Component.name.inj hname ▸ ⟨hsize, hnext⟩⟩

/-- A directory stays missing as the files grow, until it is there. -/
theorem missingChild?_of_grows (h : files.Grows after) {step : Component}
    (hmissing : files.missingChild? location step = some next) (hnone : after.node? next = none) :
    after.missingChild? location step = some next := by
  obtain ⟨hlocation, -, hname⟩ := missingChild?_eq_some_iff.mp hmissing
  exact missingChild?_eq_some_iff.mpr ⟨h.node?_of_some hlocation, hnone, hname⟩

theorem makeDirectories_of_missing {step : Component} (steps : List Component)
    (h : files.missingChild? location step = some next) :
    files.makeDirectories location (step :: steps)
      = (files.set next (some .directory)).makeDirectories next steps := by
  rw [makeDirectories, h]

theorem makeDirectories_of_enter {step : Component} (steps : List Component)
    (h : files.enter location step = .ok next) :
    files.makeDirectories location (step :: steps) = files.makeDirectories next steps := by
  rw [makeDirectories, missingChild?_of_enter h]
  simp only [h]

/-! ## All steps of making directories -/

theorem grows_makeDirectories (files : FileSystem) (location : Location) (steps : List Component) :
    files.Grows (files.makeDirectories location steps).1 := by
  fun_induction makeDirectories files location steps with
  | case1 => exact .refl _
  | case2 => exact .refl _
  | case3 files location step steps missing hmissing ih =>
      exact (grows_set (node?_of_missingChild? hmissing)).trans ih
  | case4 files location step steps hmissing next henter ih => exact ih
  | case5 => exact .refl _

/-- Where more stood at first, more stands in the end. -/
theorem makeDirectories_mono (h : files.Grows after) (location : Location) (steps : List Component) :
    (files.makeDirectories location steps).1.Grows (after.makeDirectories location steps).1 := by
  fun_induction makeDirectories files location steps generalizing after with
  | case1 => exact h.trans (grows_makeDirectories _ _ _)
  | case2 => exact h.trans (grows_makeDirectories _ _ _)
  | case3 files location step steps missing hmissing ih =>
      obtain ⟨hlocation, -, -⟩ := missingChild?_eq_some_iff.mp hmissing
      rcases h missing with hsame | ⟨-, hmade⟩
      · -- The directory is missing in both, and made in both.
        rw [node?_of_missingChild? hmissing] at hsame
        rw [makeDirectories_of_missing steps (missingChild?_of_grows h hmissing hsame)]
        refine ih ((h.trans (grows_set hsame)).set_left ?_)
        rw [node?_set, if_pos rfl]
      · rw [makeDirectories_of_enter steps (enter_of_missingChild? hmissing
          (h.node?_of_some hlocation) (by rw [hmade, Option.isSome_some]))]
        exact ih (h.set_left hmade)
  | case4 files location step steps hmissing next henter ih =>
      rw [makeDirectories_of_enter steps (enter_of_grows_ok h henter)]
      exact ih h
  | case5 => exact h.trans (grows_makeDirectories _ _ _)

/-- What was made is not made again, and what could not be made cannot be made now. -/
theorem makeDirectories_makeDirectories (files : FileSystem) (location : Location)
    (steps : List Component) :
    (files.makeDirectories location steps).1.makeDirectories location steps
      = files.makeDirectories location steps := by
  fun_induction makeDirectories files location steps with
  | case1 files location hnode => simp only [makeDirectories, hnode]
  | case2 files location hnode =>
      unfold makeDirectories
      split
      · rename_i hdirectory
        exact absurd hdirectory (hnode ·)
      · rfl
  | case3 files location step steps missing hmissing ih =>
      obtain ⟨hlocation, -, -⟩ := missingChild?_eq_some_iff.mp hmissing
      have hgrows := grows_makeDirectories (files.set missing (some .directory)) missing steps
      rw [makeDirectories_of_enter steps (enter_of_missingChild? hmissing
        (((grows_set (node?_of_missingChild? hmissing)).trans hgrows).node?_of_some hlocation) ?_)]
      · exact ih
      · rw [hgrows.node?_of_some (by rw [node?_set, if_pos rfl]), Option.isSome_some]
  | case4 files location step steps hmissing next henter ih =>
      rw [makeDirectories_of_enter steps (enter_of_grows_ok (grows_makeDirectories _ _ _) henter)]
      exact ih
  | case5 files location step steps hmissing error henter =>
      simp only [makeDirectories, hmissing, henter]

/-- What steps make ends as a directory, and begins as one. -/
theorem node?_of_makeDirectories_ok {steps : List Component}
    (h : (files.makeDirectories location steps).2 = .ok ()) :
    (files.makeDirectories location steps).1.node? location = some .directory := by
  refine (grows_makeDirectories files location steps).node?_of_some ?_
  cases steps with
  | nil =>
      unfold makeDirectories at h
      split at h
      · assumption
      · cases h
  | cons step steps =>
      unfold makeDirectories at h
      split at h
      · rename_i hmissing
        exact (missingChild?_eq_some_iff.mp hmissing).1
      · split at h
        · rename_i henter
          exact (enter_eq_ok_iff.mp henter).1
        · cases h

/-- Once all directories are there, nothing is made as long as they stay. -/
theorem makeDirectories_of_made {steps : List Component}
    (h : (files.makeDirectories location steps).2 = .ok ())
    (hkeeps : (files.makeDirectories location steps).1.KeepsDirectories after) :
    after.makeDirectories location steps = (after, .ok ()) := by
  have hlocation := hkeeps _ (node?_of_makeDirectories_ok h)
  fun_induction makeDirectories files location steps with
  | case1 => simp only [makeDirectories, hlocation]
  | case2 => cases h
  | case3 files location step steps missing hmissing ih =>
      have hnext := hkeeps _ (node?_of_makeDirectories_ok h)
      rw [makeDirectories_of_enter steps (enter_of_missingChild? hmissing hlocation
        (by rw [hnext, Option.isSome_some]))]
      exact ih h hkeeps hnext
  | case4 files location step steps hmissing next henter ih =>
      have hnext := hkeeps _ (node?_of_makeDirectories_ok h)
      obtain ⟨-, rfl, hname⟩ := enter_eq_ok_iff.mp henter
      rw [makeDirectories_of_enter steps (enter_eq_ok_iff.mpr ⟨hlocation, rfl, fun text htext => ?_⟩)]
      · exact ih h hkeeps hnext
      · subst htext
        exact ⟨(hname text rfl).1, hnext ▸ rfl⟩
  | case5 => cases h

/-! ## The directories above an entry -/

/-- For one path the same steps are taken in all files, or none. -/
theorem makeParents_cases (working : Location) (path : String) :
    (∃ outcome, ∀ files : FileSystem, files.makeParents working path = (files, outcome))
      ∨ ∃ location steps, ∀ files : FileSystem,
          files.makeParents working path = files.makeDirectories location steps := by
  cases hparent : Path.parent? path with
  | none => exact .inl ⟨.ok (), fun files => by rw [makeParents, hparent]⟩
  | some parent =>
      by_cases hempty : parent.isEmpty = true
      · exact .inl ⟨.ok (), fun files => by rw [makeParents, hparent]; exact if_pos hempty⟩
      · have hmakes : ∀ files : FileSystem,
            files.makeParents working path = files.makePath working parent := fun files => by
          rw [makeParents, hparent]
          exact if_neg hempty
        cases hcheck : checkPath parent with
        | error error => exact .inl ⟨.error error, fun files => by rw [hmakes, makePath, hcheck]⟩
        | ok => exact .inr ⟨_, _, fun files => by rw [hmakes, makePath, hcheck]⟩

theorem grows_makeParents (files : FileSystem) (working : Location) (path : String) :
    files.Grows (files.makeParents working path).1 := by
  rcases makeParents_cases working path with ⟨outcome, hsame⟩ | ⟨location, steps, hmakes⟩
  · rw [hsame]
    exact .refl _
  · rw [hmakes]
    exact grows_makeDirectories _ _ _

/-- After a part of the directories was made, making all of them adds nothing but what is left. -/
theorem makeParents_grows_of_grows (h : after.Grows (files.makeParents working path).1) :
    (after.makeParents working path).1.Grows (files.makeParents working path).1 := by
  rcases makeParents_cases working path with ⟨outcome, hsame⟩ | ⟨location, steps, hmakes⟩
  · rw [hsame] at h ⊢
    rwa [hsame]
  · rw [hmakes] at h ⊢
    rw [hmakes, ← makeDirectories_makeDirectories files]
    exact makeDirectories_mono h _ _

/-- The directories are not made again as long as they stay. -/
theorem makeParents_of_made (h : (files.makeParents working path).2 = .ok ())
    (hkeeps : (files.makeParents working path).1.KeepsDirectories after) :
    after.makeParents working path = (after, .ok ()) := by
  rcases makeParents_cases working path with ⟨outcome, hsame⟩ | ⟨location, steps, hmakes⟩
  · rw [hsame] at h
    rw [hsame]
    exact congrArg (Prod.mk after) h
  · rw [hmakes] at h hkeeps ⊢
    exact makeDirectories_of_made h hkeeps

end FileSystem

end GoAssist
