import GoAssist.Registry.Basic

/-!
# The package index

The index is built while packages of a known name are passed over, so the position of a package
among the given ones and among the kept ones drift apart. `Indexed` says that the index answers as a
scan of the kept packages does; `indexed_addPackage` preserves it, whether the package is kept or
passed over. A look-up in a built registry is then the first package of the name among those given
(`lookup?_ofEntries`), because passing one over hides no name from a scan (`find?_addPackage`).
-/

namespace GoAssist

namespace Registry

/-- The index finds a name where a scan of the packages first meets it. -/
def Indexed (registry : Registry) : Prop :=
  ∀ name, registry.index[name]?
    = registry.packages.toList.findIdx? fun package => package.name == name

variable {registry : Registry}

theorem Indexed.mem_index_iff (h : registry.Indexed) (name : String) :
    name ∈ registry.index ↔ ∃ package ∈ registry.packages.toList, package.name = name := by
  rw [Std.TreeMap.mem_iff_isSome_getElem?, h name, List.findIdx?_isSome, List.any_eq_true]
  simp only [beq_iff_eq]

/-- The packages grow at the end, and only by a new name. -/
theorem toList_packages_addPackage (registry : Registry) (package : Package) :
    (registry.addPackage package).packages.toList
      = if package.name ∈ registry.index then registry.packages.toList
        else registry.packages.toList ++ [package] := by
  by_cases hmem : package.name ∈ registry.index
  · rw [addPackage_of_mem hmem, if_pos hmem]
  · rw [packages_addPackage_of_not_mem hmem, if_neg hmem, Array.toList_push]

theorem indexed_addPackage (h : registry.Indexed) (package : Package) :
    (registry.addPackage package).Indexed := by
  by_cases hmem : package.name ∈ registry.index
  · rwa [addPackage_of_mem hmem]
  · intro name
    rw [index_addPackage hmem, toList_packages_addPackage, if_neg hmem, List.findIdx?_append,
      ← h name]
    by_cases hname : package.name = name
    · subst hname
      rw [if_pos rfl, Std.TreeMap.getElem?_eq_none hmem]
      simp
    · simp [hname]

/-- A scan by name does not miss a package that was passed over: one of its name stands before. -/
theorem find?_addPackage (h : registry.Indexed) (package : Package) (name : String) :
    (registry.addPackage package).packages.toList.find? (fun package => package.name == name)
      = (registry.packages.toList ++ [package]).find? fun package => package.name == name := by
  rw [toList_packages_addPackage]
  split
  · rename_i hmem
    obtain ⟨kept, hkept, hname⟩ := (h.mem_index_iff _).mp hmem
    rw [List.find?_append]
    by_cases heq : package.name = name
    · have hsome : (registry.packages.toList.find? fun package => package.name == name).isSome := by
        rw [List.find?_isSome]
        exact ⟨kept, hkept, by simp [hname, heq]⟩
      rw [Option.or_of_isSome hsome]
    · simp [heq]
  · rfl

/-- Adding packages one after another keeps the index right and hides no name. -/
theorem indexed_foldl_addPackage (packages : List Package) (h : registry.Indexed) :
    (packages.foldl addPackage registry).Indexed
    ∧ ∀ name, (packages.foldl addPackage registry).packages.toList.find?
        (fun package => package.name == name)
      = (registry.packages.toList ++ packages).find? fun package => package.name == name := by
  induction packages generalizing registry with
  | nil => exact ⟨h, fun name => by rw [List.append_nil, List.foldl_nil]⟩
  | cons package packages ih =>
      obtain ⟨hindexed, hfind⟩ := ih (indexed_addPackage h package)
      refine ⟨hindexed, fun name => ?_⟩
      rw [List.foldl_cons, hfind name, List.find?_append, find?_addPackage h, ← List.find?_append,
        List.append_assoc, List.singleton_append]

/-- Looking a name up is scanning for it. -/
theorem Indexed.lookup?_eq_find? (h : registry.Indexed) (name : String) :
    registry.lookup? name
      = registry.packages.toList.find? fun package => package.name == name := by
  simp only [lookup?, h name, List.find?_eq_bind_findIdx?_getElem?, Array.getElem?_toList]

variable (packages : List Package) (keywords types : List String) (snippets : List Snippet)

theorem indexed_ofEntries : (ofEntries packages keywords types snippets).Indexed :=
  (indexed_foldl_addPackage packages fun _ => by simp).1

/-- The kept packages and the given ones are scanned alike. -/
theorem find?_packages_ofEntries (name : String) :
    (ofEntries packages keywords types snippets).packages.toList.find?
        (fun package => package.name == name)
      = packages.find? fun package => package.name == name :=
  (indexed_foldl_addPackage packages fun _ => by simp).2 name

/-- A name stands for the first package given under it. -/
theorem lookup?_ofEntries (name : String) :
    (ofEntries packages keywords types snippets).lookup? name
      = packages.find? fun package => package.name == name := by
  rw [(indexed_ofEntries packages keywords types snippets).lookup?_eq_find?,
    find?_packages_ofEntries]

end Registry

end GoAssist
