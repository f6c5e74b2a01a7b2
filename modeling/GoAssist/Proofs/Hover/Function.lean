import GoAssist.Completion.Candidate
import GoAssist.Hover
import GoAssist.Proofs.Registry.Entries

/-!
# Functions in explanations and in member lists

The explanation of a name scans the kept packages; the members of a package are found through the
index. The two agree because a kept package is the one that its own name finds (`lookup?_of_mem`):
names are kept once (`nodup_packageNames_ofEntries`), and the index answers as a scan does.

`findFunction?_eq_some_iff` says which function a scan finds, without scanning: the first of its label
in the first kept package that has one. What a name is explained as is read off it, in the two cases
that a package offers such a function (`explanation_of_function`) or that none does
(`explanation_of_no_function`).
-/

namespace GoAssist

namespace Registry

variable {registry : Registry}

/-! ## The function of a label -/

/-- `function` is the function that a label stands for: the first of that label in `package`, which is
the first kept package that has one. -/
structure IsFirstFunction (registry : Registry) (label : String) (package : Package)
    (function : Symbol) : Prop where
  /-- No package kept before has a function of the label. -/
  first_package : ∃ before after, registry.packages.toList = before ++ package :: after
    ∧ ∀ earlier ∈ before, ∀ f ∈ earlier.functions, f.label ≠ label
  /-- No function of the package before has the label. -/
  first_function : ∃ before after, package.functions = before ++ function :: after
    ∧ ∀ earlier ∈ before, earlier.label ≠ label
  label : function.label = label

/-- Some kept package has a function of the label. -/
def HasFunction (registry : Registry) (label : String) : Prop :=
  ∃ package ∈ registry.packages.toList, ∃ symbol ∈ package.symbols,
    symbol.kind = .function ∧ symbol.label = label

variable {label : String} {package : Package} {function : Symbol}

theorem IsFirstFunction.mem_packages (h : registry.IsFirstFunction label package function) :
    package ∈ registry.packages.toList := by
  obtain ⟨before, after, hsplit, -⟩ := h.first_package
  exact hsplit ▸ List.mem_append_right before List.mem_cons_self

theorem IsFirstFunction.mem_functions (h : registry.IsFirstFunction label package function) :
    function ∈ package.functions := by
  obtain ⟨before, after, hsplit, -⟩ := h.first_function
  exact hsplit ▸ List.mem_append_right before List.mem_cons_self

theorem mem_functions_iff : function ∈ package.functions
    ↔ function ∈ package.symbols ∧ function.kind = .function := by
  rw [Package.functions, Package.ofKind, List.mem_filter, beq_iff_eq]

/-- The scan for a function finds the one that the label stands for. -/
theorem findFunction?_eq_some_iff : registry.findFunction? label = some (package, function)
    ↔ registry.IsFirstFunction label package function := by
  constructor
  · intro h
    obtain ⟨before, kept, after, hsplit, hfound, hbefore⟩ := List.findSome?_eq_some_iff.mp h
    obtain ⟨found, hfind, heq⟩ := Option.map_eq_some_iff.mp hfound
    obtain ⟨rfl, rfl⟩ := Prod.mk.inj heq
    obtain ⟨hlabel, first, rest, hfunctions, hfirst⟩ := List.find?_eq_some_iff_append.mp hfind
    refine ⟨⟨before, after, hsplit, fun earlier hearlier f hf heq => ?_⟩,
      ⟨first, rest, hfunctions, fun f hf heq => ?_⟩, eq_of_beq hlabel⟩
    · have hnone := List.find?_eq_none.mp (Option.map_eq_none_iff.mp (hbefore earlier hearlier))
      exact hnone f hf (beq_iff_eq.mpr heq)
    · exact absurd (hfirst f hf) (by simp [heq])
  · rintro ⟨⟨before, after, hsplit, hbefore⟩, ⟨first, rest, hfunctions, hfirst⟩, hlabel⟩
    have hfind : (package.functions.find? fun f => f.label == label) = some function :=
      List.find?_eq_some_iff_append.mpr
        ⟨beq_iff_eq.mpr hlabel, first, rest, hfunctions, fun f hf => by simpa using hfirst f hf⟩
    refine List.findSome?_eq_some_iff.mpr
      ⟨before, package, after, hsplit, ?_, fun earlier hearlier => ?_⟩
    · rw [hfind, Option.map_some]
    · rw [Option.map_eq_none_iff, List.find?_eq_none]
      exact fun f hf heq => hbefore earlier hearlier f hf (eq_of_beq heq)

theorem findFunction?_eq_none_iff :
    registry.findFunction? label = none ↔ ¬registry.HasFunction label := by
  simp only [findFunction?, List.findSome?_eq_none_iff, Option.map_eq_none_iff, List.find?_eq_none,
    mem_functions_iff, beq_iff_eq, HasFunction, not_exists, not_and, and_imp]

theorem hasFunction_iff : registry.HasFunction label
    ↔ ∃ package function, registry.IsFirstFunction label package function := by
  rw [← not_iff_not, ← findFunction?_eq_none_iff, Option.eq_none_iff_forall_ne_some]
  simp only [ne_eq, Prod.forall, findFunction?_eq_some_iff, not_exists]

/-! ## Explanations -/

/-- The blocks of text that explain a name. -/
def explanation (registry : Registry) (name : String) : Option (List String) :=
  (registry.hover? name).map Hover.contents

/-- The blocks that explain a name as a function of a package. -/
def functionBlocks (package name signature : String) : List String :=
  ["**" ++ package ++ "." ++ name ++ "**", signature]

/-- What is left of the blocks is the package and the signature. -/
theorem functionBlocks_inj {first second name signature other : String}
    (h : functionBlocks first name signature = functionBlocks second name other) :
    first = second ∧ signature = other := by
  simpa [functionBlocks, String.append_assoc, String.append_right_inj, String.append_left_inj] using h

theorem explanation_of_function (h : registry.IsFirstFunction label package function) :
    registry.explanation label = some (functionBlocks package.name label function.signature) := by
  rw [explanation, hover?, findFunction?_eq_some_iff.mpr h, ← h.label]
  rfl

theorem explanation_of_no_function (h : ¬registry.HasFunction label) :
    registry.explanation label
      = if label ∈ registry.keywords then some ["**" ++ label ++ "** (keyword)"]
        else if label ∈ registry.types then some ["**" ++ label ++ "** (built-in type)"]
        else none := by
  simp only [explanation, hover?, findFunction?_eq_none_iff.mpr h, isKeyword, isType,
    List.contains_iff_mem, apply_ite (Option.map Hover.contents), Option.map_some, Option.map_none,
    Hover.contents]

/-- The blocks of a function explain a name exactly if it stands for that function. -/
theorem explanation_eq_functionBlocks_iff {name signature : String} :
    registry.explanation label = some (functionBlocks name label signature)
      ↔ ∃ package function, registry.IsFirstFunction label package function
        ∧ package.name = name ∧ function.signature = signature := by
  constructor
  · intro h
    by_cases hfunction : registry.HasFunction label
    · obtain ⟨package, function, hfirst⟩ := hasFunction_iff.mp hfunction
      rw [explanation_of_function hfirst] at h
      obtain ⟨hname, hsignature⟩ := functionBlocks_inj (Option.some.inj h)
      exact ⟨package, function, hfirst, hname, hsignature⟩
    · rw [explanation_of_no_function hfunction] at h
      -- A keyword or a type is explained in one block, a function in two.
      split at h
      · simp [functionBlocks] at h
      · split at h
        · simp [functionBlocks] at h
        · cases h
  · rintro ⟨package, function, hfirst, rfl, rfl⟩
    exact explanation_of_function hfirst

/-! ## Member lists -/

/-- A function of a looked-up package is offered as a member of it. -/
theorem exists_candidate_of_mem_functions (hlookup : registry.lookup? package.name = some package)
    (hfunction : function ∈ package.functions) (span : Span) :
    ∃ candidate ∈ registry.candidates ⟨.member package.name, span⟩, candidate.kind = .function
      ∧ candidate.label = function.label ∧ candidate.detail = some function.signature := by
  obtain ⟨hsymbol, hkind⟩ := mem_functions_iff.mp hfunction
  refine ⟨.ofSymbol span function, ?_, by rw [Candidate.ofSymbol, hkind]; rfl, rfl, rfl⟩
  simp only [candidates, memberCandidates, hlookup]
  exact List.mem_map_of_mem hsymbol

/-- A function that is offered as a member is one of the package that the name finds. -/
theorem exists_function_of_mem_candidates {name : String} {span : Span} {candidate : Candidate}
    (h : candidate ∈ registry.candidates ⟨.member name, span⟩) (hkind : candidate.kind = .function) :
    ∃ package function, registry.lookup? name = some package ∧ function ∈ package.functions
      ∧ candidate = .ofSymbol span function := by
  simp only [candidates, memberCandidates] at h
  split at h
  · exact absurd h List.not_mem_nil
  · rename_i package hlookup
    obtain ⟨symbol, hsymbol, rfl⟩ := List.mem_map.mp h
    refine ⟨package, symbol, hlookup, mem_functions_iff.mpr ⟨hsymbol, ?_⟩, rfl⟩
    cases hsymbolKind : symbol.kind with
    | function => rfl
    | constant => rw [Candidate.ofSymbol, hsymbolKind] at hkind; cases hkind
    | «variable» => rw [Candidate.ofSymbol, hsymbolKind] at hkind; cases hkind

theorem mem_packages_of_lookup? {name : String} (h : registry.lookup? name = some package) :
    package ∈ registry.packages.toList := by
  obtain ⟨position, -, hposition⟩ := Option.bind_eq_some_iff.mp h
  exact Array.mem_toList_iff.mpr (Array.mem_of_getElem? hposition)

/-- A function that is offered as a member is a function of a kept package. -/
theorem hasFunction_of_mem_candidates {name : String} {span : Span} {candidate : Candidate}
    (h : candidate ∈ registry.candidates ⟨.member name, span⟩) (hkind : candidate.kind = .function) :
    registry.HasFunction candidate.label := by
  obtain ⟨package, function, hlookup, hfunction, rfl⟩ := exists_function_of_mem_candidates h hkind
  obtain ⟨hsymbol, hfunctionKind⟩ := mem_functions_iff.mp hfunction
  exact ⟨package, mem_packages_of_lookup? hlookup, function, hsymbol, hfunctionKind, rfl⟩

/-- Explanations and member lists agree on every registry. The kept packages are the first ones given
under their names, in the given order. A name is explained as a function exactly if a kept package has
one of that label; then the package is the first such one, it is what its name finds, the signature is
that of its first function of the label, and its member list offers that function. Every function that
a member list offers is explained as one. A name of no function is explained as a keyword, or else as a
type, or else not at all. -/
theorem explanation_agrees_with_members (packages : List Package) (keywords types : List String)
    (snippets : List Snippet) (id : String) :
    let registry := ofEntries packages keywords types snippets
    (registry.packages.toList.Sublist packages
      ∧ ∀ package, package ∈ registry.packages.toList
        ↔ (packages.find? fun given => given.name == package.name) = some package)
    ∧ ((∃ name signature, registry.explanation id = some (functionBlocks name id signature))
        ↔ ∃ package ∈ registry.packages.toList, ∃ symbol ∈ package.symbols,
          symbol.kind = .function ∧ symbol.label = id)
    ∧ (∀ name signature, registry.explanation id = some (functionBlocks name id signature) →
        ∃ package function, registry.IsFirstFunction id package function
          ∧ package.name = name ∧ function.signature = signature
          ∧ registry.lookup? name = some package
          ∧ ∀ span, ∃ candidate ∈ registry.candidates ⟨.member name, span⟩,
              candidate.kind = .function ∧ candidate.label = id
                ∧ candidate.detail = some signature)
    ∧ (∀ name span, ∀ candidate ∈ registry.candidates ⟨.member name, span⟩,
        candidate.kind = .function → ∃ name signature, registry.explanation candidate.label
          = some (functionBlocks name candidate.label signature))
    ∧ ((¬∃ package ∈ registry.packages.toList, ∃ symbol ∈ package.symbols,
          symbol.kind = .function ∧ symbol.label = id) →
        registry.explanation id
          = if id ∈ keywords then some ["**" ++ id ++ "** (keyword)"]
            else if id ∈ types then some ["**" ++ id ++ "** (built-in type)"]
            else none) := by
  intro registry
  have hexplained : ∀ label, registry.HasFunction label → ∃ name signature,
      registry.explanation label = some (functionBlocks name label signature) := by
    intro label hfunction
    obtain ⟨package, function, hfirst⟩ := hasFunction_iff.mp hfunction
    exact ⟨_, _, explanation_of_function hfirst⟩
  refine ⟨⟨sublist_packages_ofEntries packages keywords types snippets,
    fun _ => mem_packages_ofEntries_iff⟩, ⟨?_, hexplained id⟩, ?_, ?_, ?_⟩
  · rintro ⟨name, signature, h⟩
    obtain ⟨package, function, hfirst, -, -⟩ := explanation_eq_functionBlocks_iff.mp h
    exact hasFunction_iff.mpr ⟨package, function, hfirst⟩
  · intro name signature h
    obtain ⟨package, function, hfirst, rfl, rfl⟩ := explanation_eq_functionBlocks_iff.mp h
    have hlookup := lookup?_of_mem hfirst.mem_packages
    refine ⟨package, function, hfirst, rfl, rfl, hlookup, fun span => ?_⟩
    exact hfirst.label ▸ exists_candidate_of_mem_functions hlookup hfirst.mem_functions span
  · exact fun name span candidate hmem hkind =>
      hexplained _ (hasFunction_of_mem_candidates hmem hkind)
  · intro hnone
    have hlists : registry.keywords = keywords ∧ registry.types = types :=
      lists_foldl_addPackage packages
    rw [explanation_of_no_function hnone, hlists.1, hlists.2]

/-- A constant and a package that was passed over do not count, and a function goes before a
keyword. -/
example :
    let run (kind : SymbolKind) : Symbol := ⟨"run", "run", "run()", kind⟩
    (ofEntries [.ofSymbols "a" [run .constant], .ofSymbols "b" [run .function],
      .ofSymbols "a" [run .function]] ["run"] [] []).explanation "run"
      = some (functionBlocks "b" "run" "run()") := by
  decide +kernel

end Registry

end GoAssist
