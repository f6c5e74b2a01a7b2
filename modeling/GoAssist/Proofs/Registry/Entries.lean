import GoAssist.Proofs.Registry.Index
import Mathlib.Data.List.Nodup

/-!
# The packages that a registry keeps

A registry is built by a pass over the given packages that asks an index whether a name is known. What it
keeps is said here without the index: the first package of each name, in the given order
(`firstOfEachName`, `toList_packages_ofEntries`). Names are therefore kept once, and a kept package is the
one that its own name finds (`lookup?_of_mem`). To build a registry again from what was kept drops
nothing, since no name is there twice (`firstOfEachName_of_nodup`).

A position that the index holds is one of a kept package of that name (`getElem?_of_index`), however many
packages were passed over before it.
-/

namespace GoAssist

/-! ## The first of each name -/

/-- The first package of each name, in order. -/
def firstOfEachName : List Package → List Package
  | [] => []
  | package :: rest =>
    package :: (firstOfEachName rest).filter fun later => later.name != package.name

theorem sublist_firstOfEachName (packages : List Package) :
    (firstOfEachName packages).Sublist packages := by
  induction packages with
  | nil => exact List.Sublist.refl []
  | cons package rest ih =>
      rw [firstOfEachName]
      exact (List.filter_sublist.trans ih).cons_cons package

theorem nodup_firstOfEachName (packages : List Package) :
    ((firstOfEachName packages).map Package.name).Nodup := by
  induction packages with
  | nil => exact List.nodup_nil
  | cons package rest ih =>
      rw [firstOfEachName, List.map_cons, List.nodup_cons]
      constructor
      · intro hmem
        obtain ⟨later, hlater, hname⟩ := List.mem_map.mp hmem
        have hne := (List.mem_filter.mp hlater).2
        exact absurd hname (bne_iff_ne.mp hne)
      · exact ih.sublist (List.filter_sublist.map Package.name)

/-- Where no name is there twice, every package is the first of its name. -/
theorem firstOfEachName_of_nodup {packages : List Package}
    (h : (packages.map Package.name).Nodup) : firstOfEachName packages = packages := by
  induction packages with
  | nil => rfl
  | cons package rest ih =>
      rw [List.map_cons, List.nodup_cons] at h
      obtain ⟨hnew, hrest⟩ := h
      rw [firstOfEachName, ih hrest]
      congr 1
      refine List.filter_eq_self.mpr fun later hlater => bne_iff_ne.mpr fun hname => ?_
      exact hnew (List.mem_map.mpr ⟨later, hlater, hname⟩)

namespace Registry

/-! ## The pass over the packages -/

section Pass

variable {registry : Registry}

theorem Indexed.mem_index_iff_mem_packageNames (h : registry.Indexed) (name : String) :
    name ∈ registry.index ↔ name ∈ registry.packageNames := by
  rw [h.mem_index_iff, packageNames, List.mem_map]

/-- A pass adds the first package of each name that was not there. -/
theorem toList_packages_foldl_addPackage (packages : List Package) (h : registry.Indexed) :
    (packages.foldl addPackage registry).packages.toList
      = registry.packages.toList
        ++ (firstOfEachName packages).filter fun package => package.name ∉ registry.packageNames := by
  induction packages generalizing registry with
  | nil => rw [List.foldl_nil, firstOfEachName, List.filter_nil, List.append_nil]
  | cons package rest ih =>
      rw [List.foldl_cons, ih (indexed_addPackage h package), packageNames, packageNames,
        toList_packages_addPackage, firstOfEachName, List.filter_cons]
      by_cases hmem : package.name ∈ registry.index
      · -- What has the name of this package was left out already.
        have hknown : package.name ∈ registry.packages.toList.map Package.name :=
          (h.mem_index_iff_mem_packageNames _).mp hmem
        rw [if_pos hmem, if_neg (by simpa using hknown), List.filter_filter]
        congr 1
        refine List.filter_congr fun later _ => ?_
        by_cases hname : later.name = package.name
        · simp [hname, hknown]
        · simp [hname]
      · have hnew : package.name ∉ registry.packages.toList.map Package.name :=
          fun hknown => hmem ((h.mem_index_iff_mem_packageNames _).mpr hknown)
        rw [if_neg hmem, if_pos (by simpa using hnew), List.filter_filter, List.append_assoc,
          List.singleton_append]
        congr 2
        refine List.filter_congr fun later _ => ?_
        by_cases hname : later.name = package.name
        · simp [hname]
        · simp [hname]

theorem lists_addPackage (registry : Registry) (package : Package) :
    (registry.addPackage package).keywords = registry.keywords
      ∧ (registry.addPackage package).types = registry.types
      ∧ (registry.addPackage package).snippets = registry.snippets := by
  rw [addPackage]
  split <;> exact ⟨rfl, rfl, rfl⟩

/-- What one package leaves as it is, a pass leaves as it is. -/
theorem part_foldl_addPackage {α : Type} (part : Registry → α)
    (h : ∀ registry package, part (addPackage registry package) = part registry)
    (packages : List Package) : part (packages.foldl addPackage registry) = part registry := by
  induction packages generalizing registry with
  | nil => rfl
  | cons package packages ih => rw [List.foldl_cons, ih, h]

/-- Adding packages leaves the keywords and types. -/
theorem lists_foldl_addPackage (packages : List Package) :
    (packages.foldl addPackage registry).keywords = registry.keywords
      ∧ (packages.foldl addPackage registry).types = registry.types :=
  ⟨part_foldl_addPackage keywords (fun kept package => (lists_addPackage kept package).1) packages,
    part_foldl_addPackage types (fun kept package => (lists_addPackage kept package).2.1) packages⟩

theorem snippets_foldl_addPackage (packages : List Package) :
    (packages.foldl addPackage registry).snippets = registry.snippets :=
  part_foldl_addPackage snippets (fun kept package => (lists_addPackage kept package).2.2) packages

/-- The index holds positions of packages of the name. -/
theorem Indexed.getElem?_of_index (h : registry.Indexed) {name : String} {position : Nat}
    (hposition : registry.index[name]? = some position) :
    ∃ package, registry.packages[position]? = some package ∧ package.name = name := by
  rw [h name] at hposition
  obtain ⟨hlt, hname, -⟩ := List.findIdx?_eq_some_iff_getElem.mp hposition
  refine ⟨registry.packages.toList[position], ?_, eq_of_beq hname⟩
  rw [← Array.getElem?_toList, List.getElem?_eq_getElem hlt]

end Pass

/-! ## Built registries -/

section Entries

variable (packages : List Package) (keywords types : List String) (snippets : List Snippet)

/-- The kept packages are the first ones of their names. -/
theorem toList_packages_ofEntries :
    (ofEntries packages keywords types snippets).packages.toList = firstOfEachName packages := by
  have hempty : Indexed ⟨#[], ∅, keywords, types, snippets⟩ := fun _ => by simp
  rw [ofEntries, toList_packages_foldl_addPackage packages hempty]
  simp [packageNames]

/-- No two kept packages have one name. -/
theorem nodup_packageNames_ofEntries :
    (ofEntries packages keywords types snippets).packageNames.Nodup := by
  rw [packageNames, toList_packages_ofEntries]
  exact nodup_firstOfEachName packages

/-- The kept packages stand in the given order. -/
theorem sublist_packages_ofEntries :
    (ofEntries packages keywords types snippets).packages.toList.Sublist packages := by
  rw [toList_packages_ofEntries]
  exact sublist_firstOfEachName packages

variable {packages keywords types snippets}

/-- A kept package is the one that its name finds. -/
theorem lookup?_of_mem {package : Package}
    (h : package ∈ (ofEntries packages keywords types snippets).packages.toList) :
    (ofEntries packages keywords types snippets).lookup? package.name = some package := by
  rw [(indexed_ofEntries packages keywords types snippets).lookup?_eq_find?]
  have hsome := List.find?_isSome
    (p := fun kept : Package => kept.name == package.name) |>.mpr ⟨package, h, beq_self_eq_true _⟩
  obtain ⟨found, hfound⟩ := Option.isSome_iff_exists.mp hsome
  have hname := eq_of_beq (List.find?_some (p := fun kept : Package => kept.name == package.name)
    hfound)
  rw [hfound, List.inj_on_of_nodup_map (nodup_packageNames_ofEntries packages keywords types
    snippets) (List.mem_of_find?_eq_some hfound) h hname]

theorem name_of_lookup? {name : String} {package : Package}
    (h : (ofEntries packages keywords types snippets).lookup? name = some package) :
    package.name = name := by
  rw [lookup?_ofEntries] at h
  have hbeq := List.find?_some h
  exact eq_of_beq hbeq

/-- The kept packages are those that are first among the given ones of their name. -/
theorem mem_packages_ofEntries_iff {package : Package} :
    package ∈ (ofEntries packages keywords types snippets).packages.toList
      ↔ (packages.find? fun given => given.name == package.name) = some package := by
  constructor
  · exact fun h => lookup?_ofEntries packages keywords types snippets package.name
      ▸ lookup?_of_mem h
  · intro h
    rw [← find?_packages_ofEntries packages keywords types snippets] at h
    exact List.mem_of_find?_eq_some h

theorem lookup?_eq_none_iff {name : String} :
    (ofEntries packages keywords types snippets).lookup? name = none
      ↔ ∀ package ∈ packages, package.name ≠ name := by
  rw [lookup?_ofEntries, List.find?_eq_none]
  simp only [beq_iff_eq, ne_eq]

/-- What was kept is kept when a registry is built from it again. -/
theorem packages_ofEntries_of_kept (keywords' types' : List String) (snippets' : List Snippet) :
    (ofEntries (ofEntries packages keywords types snippets).packages.toList keywords' types'
        snippets').packages
      = (ofEntries packages keywords types snippets).packages := by
  have hkept := firstOfEachName_of_nodup
    (nodup_packageNames_ofEntries packages keywords types snippets)
  rw [← toList_packages_ofEntries _ keywords' types' snippets'] at hkept
  exact Array.toList_inj.mp hkept

end Entries

/-- A registry keeps the first package of each name, in the given order and as it was given, and no other
package; so no two kept packages have one name. A look-up finds what a scan of the kept packages finds and
what a scan of the given ones finds, and nothing exactly if no package of the name was given. Every
position in the index is one of a kept package, which has the name, and every kept package is found by its
own name. A registry built from the kept packages keeps all of them and finds the same. -/
theorem ofEntries_keeps_first_of_each_name (packages : List Package) (keywords types : List String)
    (snippets : List Snippet) :
    let registry := ofEntries packages keywords types snippets
    (registry.packages.toList = firstOfEachName packages
      ∧ registry.packages.toList.Sublist packages
      ∧ registry.packageNames.Nodup)
    ∧ (∀ name, registry.lookup? name
          = (registry.packages.toList.find? fun package => package.name == name)
        ∧ registry.lookup? name = (packages.find? fun package => package.name == name)
        ∧ (registry.lookup? name = none ↔ ∀ package ∈ packages, package.name ≠ name))
    ∧ (∀ name position, registry.index[name]? = some position →
        position < registry.packages.size
        ∧ ∃ package, registry.packages[position]? = some package ∧ package.name = name)
    ∧ (∀ package ∈ registry.packages.toList, registry.lookup? package.name = some package)
    ∧ ∀ keywords' types' snippets',
        let rebuilt := ofEntries registry.packages.toList keywords' types' snippets'
        rebuilt.packages = registry.packages
        ∧ ∀ name, rebuilt.lookup? name = registry.lookup? name := by
  intro registry
  have hindexed : registry.Indexed := indexed_ofEntries packages keywords types snippets
  refine ⟨⟨toList_packages_ofEntries packages keywords types snippets,
    sublist_packages_ofEntries packages keywords types snippets,
    nodup_packageNames_ofEntries packages keywords types snippets⟩, ?_, ?_, ?_, ?_⟩
  · intro name
    exact ⟨hindexed.lookup?_eq_find? name, lookup?_ofEntries packages keywords types snippets name,
      lookup?_eq_none_iff⟩
  · intro name position hposition
    obtain ⟨package, hpackage, hname⟩ := hindexed.getElem?_of_index hposition
    have hlt := (Array.getElem?_eq_some_iff.mp hpackage).1
    exact ⟨hlt, package, hpackage, hname⟩
  · intro package hpackage
    exact lookup?_of_mem hpackage
  · intro keywords' types' snippets' rebuilt
    have hpackages : rebuilt.packages = registry.packages :=
      packages_ofEntries_of_kept keywords' types' snippets'
    refine ⟨hpackages, fun name => ?_⟩
    have hrebuilt : rebuilt.Indexed := indexed_ofEntries _ keywords' types' snippets'
    rw [hrebuilt.lookup?_eq_find?, hindexed.lookup?_eq_find?, hpackages]

/-- Packages of a known name are passed over, wherever they stand. -/
example :
    let empty (name : String) : Package := .ofSymbols name []
    (ofEntries [empty "b", empty "a", empty "b", empty "c", empty "a"] [] [] []).packageNames
      = ["b", "a", "c"] := by
  decide +kernel

end Registry

end GoAssist
