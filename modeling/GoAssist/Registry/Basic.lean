import GoAssist.Registry.Package
import Std.Data.TreeMap

/-!
# The registry of known names

A registry holds packages, keywords, types and snippets in the order in which they are offered. Of
several packages of one name it keeps the first. Packages are found through an index from names to
positions; `index_addPackage` says that the index grows only with the list of packages.
-/

namespace GoAssist

/-- A piece of code that is offered under a name. -/
structure Snippet where
  /-- The name. -/
  label : String
  /-- The text that it inserts. -/
  template : String
  /-- What it is for. -/
  description : String
  deriving DecidableEq, Repr, Inhabited

/-- Everything that can be completed or explained. -/
structure Registry where
  /-- The packages, no two of one name. -/
  packages : Array Package
  /-- Where each package name stands in `packages`. -/
  index : Std.TreeMap String Nat
  /-- The keywords of the language. -/
  keywords : List String
  /-- The names of its predeclared types. -/
  types : List String
  /-- The snippets. -/
  snippets : List Snippet

namespace Registry

/-- Adds a package unless one of its name is there. -/
def addPackage (registry : Registry) (package : Package) : Registry :=
  if registry.index.contains package.name then registry
  else
    { registry with
      packages := registry.packages.push package
      index := registry.index.insert package.name registry.packages.size }

/-- A registry of the given names, with the first package of each name. -/
def ofEntries (packages : List Package) (keywords types : List String)
    (snippets : List Snippet) : Registry :=
  packages.foldl addPackage ⟨#[], ∅, keywords, types, snippets⟩

/-- The package of a name. -/
def lookup? (registry : Registry) (name : String) : Option Package :=
  registry.index[name]?.bind fun position => registry.packages[position]?

/-- The names of the packages, in order. -/
def packageNames (registry : Registry) : List String :=
  registry.packages.toList.map Package.name

/-- Whether a name is a keyword. -/
def isKeyword (registry : Registry) (name : String) : Bool :=
  registry.keywords.contains name

/-- Whether a name is a predeclared type. -/
def isType (registry : Registry) (name : String) : Bool :=
  registry.types.contains name

/-- The first function with a label, in the first package that has one. -/
def findFunction? (registry : Registry) (label : String) : Option (Package × Symbol) :=
  registry.packages.toList.findSome? fun package =>
    (package.functions.find? fun function => function.label == label).map fun function =>
      (package, function)

/-! ## Adding a package -/

theorem addPackage_of_mem {registry : Registry} {package : Package}
    (h : package.name ∈ registry.index) : registry.addPackage package = registry := by
  simp [addPackage, Std.TreeMap.contains_iff_mem.mpr h]

theorem packages_addPackage_of_not_mem {registry : Registry} {package : Package}
    (h : package.name ∉ registry.index) :
    (registry.addPackage package).packages = registry.packages.push package := by
  simp [addPackage, Std.TreeMap.contains_iff_mem, h]

/-- A new name is indexed at the end of the list. -/
theorem index_addPackage {registry : Registry} {package : Package}
    (h : package.name ∉ registry.index) (name : String) :
    (registry.addPackage package).index[name]?
      = if package.name = name then some registry.packages.size else registry.index[name]? := by
  have hc : registry.index.contains package.name = false := by
    simpa [← Std.TreeMap.contains_iff_mem] using h
  simp [addPackage, hc, Std.TreeMap.getElem?_insert]

end Registry

end GoAssist
