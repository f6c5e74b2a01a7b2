import GoAssist.Completion.Candidate
import GoAssist.Proofs.Line.Run
import GoAssist.Proofs.Registry.Index
import GoAssist.Proofs.Registry.Members

/-!
# Members after a completed package name

A package name that is accepted and followed by a dot opens the list of that package's members,
whatever stands around it. Three facts meet here: the accepted text begins a new run of identifier
characters (`exists_replace_typedSpan`), a run and a dot are a member position
(`candidatesAt_after_dot`), and a look-up finds the first package given under the name, with its
members in order by kind (`memberCandidates_ofEntries`).
-/

namespace GoAssist

namespace Registry

/-! ## Where package names are offered -/

/-- Package names are the only candidates of their kind. -/
theorem exists_package_of_mem_candidatesAt {registry : Registry} {line : Line} {column : Nat}
    {candidate : Candidate} (h : candidate ∈ registry.candidatesAt line column)
    (hkind : candidate.kind = .module) :
    ∃ package ∈ registry.packages.toList,
      candidate = .ofPackageName (typedSpan line column) package.name := by
  rw [candidatesAt, candidates] at h
  split at h
  · rw [memberCandidates] at h
    split at h
    · exact absurd h List.not_mem_nil
    · obtain ⟨symbol, -, rfl⟩ := List.mem_map.mp h
      rw [Candidate.ofSymbol] at hkind
      cases hsymbol : symbol.kind <;> rw [hsymbol] at hkind <;> cases hkind
  · simp only [generalCandidates, packageNames, List.mem_append, List.mem_map] at h
    rcases h with ((⟨_, -, rfl⟩ | ⟨_, -, rfl⟩) | ⟨_, -, rfl⟩) | ⟨_, ⟨package, hpackage, rfl⟩, rfl⟩
    · cases hkind
    · cases hkind
    · cases hkind
    · exact ⟨package, hpackage, rfl⟩

/-- After a name and a dot the members of the name are offered, and they replace nothing. -/
theorem candidatesAt_after_dot (registry : Registry) {before name : List Char}
    (h : IsTail before name) (hname : IsIdentifier name) (rest : List Char) :
    registry.candidatesAt (before ++ name ++ ['.'] ++ rest) (before ++ name ++ ['.']).length
      = registry.memberCandidates (String.ofList name)
          ⟨(before ++ name ++ ['.']).length, (before ++ name ++ ['.']).length⟩ := by
  rw [candidatesAt, analyze_after_dot h hname, candidates]

/-! ## What is known of a package -/

section Entries

variable (entries : List (String × List Symbol)) (keywords types : List String)
  (snippets : List Snippet)

/-- A scan of the packages of the entries is a scan of the entries. -/
theorem find?_map_ofSymbols (name : String) :
    (entries.map fun entry => Package.ofSymbols entry.1 entry.2).find?
        (fun package => package.name == name)
      = (entries.find? fun entry => entry.1 == name).map fun entry =>
          Package.ofSymbols entry.1 entry.2 := by
  rw [List.find?_map]
  rfl

/-- The name of a kept package is that of an entry. -/
theorem exists_entry_of_mem_packages {package : Package}
    (h : package ∈ (ofEntries (entries.map fun entry => .ofSymbols entry.1 entry.2)
      keywords types snippets).packages.toList) :
    ∃ members, (entries.find? fun entry => entry.1 == package.name)
      = some (package.name, members) := by
  have hsome : ((ofEntries (entries.map fun entry => .ofSymbols entry.1 entry.2) keywords types
      snippets).packages.toList.find? fun kept => kept.name == package.name).isSome :=
    List.find?_isSome.mpr ⟨package, h, beq_self_eq_true _⟩
  rw [find?_packages_ofEntries, find?_map_ofSymbols, Option.isSome_map] at hsome
  obtain ⟨⟨name, members⟩, hentry⟩ := Option.isSome_iff_exists.mp hsome
  have hname := List.find?_some hentry
  obtain rfl : name = package.name := eq_of_beq hname
  exact ⟨members, hentry⟩

/-- The members of a name are those of the first entry under it, by kind. -/
theorem memberCandidates_ofEntries {name : String} {members : List Symbol}
    (h : (entries.find? fun entry => entry.1 == name) = some (name, members)) (span : Span) :
    (ofEntries (entries.map fun entry => .ofSymbols entry.1 entry.2)
        keywords types snippets).memberCandidates name span
      = (byKind members).map (.ofSymbol span) := by
  have hlookup : (ofEntries (entries.map fun entry => .ofSymbols entry.1 entry.2)
      keywords types snippets).lookup? name = some (.ofSymbols name members) := by
    rw [lookup?_ofEntries, find?_map_ofSymbols, h, Option.map_some]
  simp only [memberCandidates, hlookup, Package.symbols_ofSymbols]

/-! ## Accepting a package name -/

/-- Accepting a package name and typing a dot after it offers exactly the members of the first entry
under that name: its functions in the given order, then its constants, then its variables, each
inserted at the cursor. Package names are offered in general position only, so that need not be
asked for. -/
theorem candidatesAt_accepted_package (line : Line) (column : Nat) {candidate : Candidate}
    (hmem : candidate ∈ (ofEntries (entries.map fun entry => .ofSymbols entry.1 entry.2)
      keywords types snippets).candidatesAt line column)
    (hkind : candidate.kind = .module) (hname : IsIdentifier candidate.label.toList) :
    let edited := candidate.span.replace line (candidate.insertText.toList ++ ['.'])
    let cursor := candidate.span.start + candidate.insertText.toList.length + 1
    ∃ members, (entries.find? fun entry => entry.1 == candidate.label)
        = some (candidate.label, members)
      ∧ (ofEntries (entries.map fun entry => .ofSymbols entry.1 entry.2)
          keywords types snippets).candidatesAt edited cursor
        = (byKind members).map fun symbol =>
            ⟨symbol.label, symbol.kind.toCandidateKind, symbol.template, some symbol.signature,
              ⟨cursor, cursor⟩⟩ := by
  obtain ⟨package, hpackage, rfl⟩ := exists_package_of_mem_candidatesAt hmem hkind
  obtain ⟨members, hentry⟩ := exists_entry_of_mem_packages entries keywords types snippets hpackage
  obtain ⟨before, rest, hleft, hstart, hreplace⟩ := exists_replace_typedSpan line column
  simp only [Candidate.ofPackageName] at hname ⊢
  have hcursor : (typedSpan line column).start + package.name.toList.length + 1
      = (before ++ package.name.toList ++ ['.']).length := by
    rw [hstart, List.length_append, List.length_append, List.length_singleton]
  refine ⟨members, hentry, ?_⟩
  rw [hcursor, hreplace, ← List.append_assoc before,
    candidatesAt_after_dot _ ⟨hname.ident, hleft⟩ hname, String.ofList_toList,
    memberCandidates_ofEntries entries keywords types snippets hentry]
  rfl

end Entries

/-- Half of a name was typed in the middle of one, and the package is given twice. -/
theorem candidatesAt_accepted_package_given_twice :
    let exit : Symbol := ⟨"Exit", "Exit(0)", "func Exit(code int)", .function⟩
    let args : Symbol := ⟨"Args", "Args", "var Args []string", .variable⟩
    let registry := ofEntries ([("fmt", []), ("os", [args, exit]), ("os", [])].map fun entry =>
      Package.ofSymbols entry.1 entry.2) [] [] []
    let accepted : Candidate := ⟨"os", .module, "os", some "Package os", ⟨2, 3⟩⟩
    accepted ∈ registry.candidatesAt ['-', ' ', 'o', 'x'] 3
    ∧ IsIdentifier accepted.label.toList
    ∧ registry.candidatesAt ['-', ' ', 'o', 's', '.', 'x'] 5
      = [⟨"Exit", .function, "Exit(0)", some "func Exit(code int)", ⟨5, 5⟩⟩,
          ⟨"Args", .variable, "Args", some "var Args []string", ⟨5, 5⟩⟩] := by
  intro exit args registry accepted
  have hmem : accepted ∈ registry.candidatesAt ['-', ' ', 'o', 'x'] 3 := by decide +kernel
  have hname : IsIdentifier accepted.label.toList := by
    have hletters : accepted.label.toList = ['o', 's'] := by decide
    rw [hletters]
    refine ⟨by decide, List.all_eq_true.mp (by decide), fun c hc => ?_⟩
    obtain rfl : 'o' = c := Option.some.inj hc
    decide
  obtain ⟨members, hentry, hoffered⟩ := candidatesAt_accepted_package
    [("fmt", []), ("os", [args, exit]), ("os", [])] [] [] [] ['-', ' ', 'o', 'x'] 3 hmem rfl hname
  obtain rfl : members = [args, exit] := by
    have hfirst : ([("fmt", []), ("os", [args, exit]), ("os", [])].find?
      fun entry => entry.1 == accepted.label) = some ("os", [args, exit]) := by decide
    exact (Prod.mk.inj (Option.some.inj (hentry.symm.trans hfirst))).2
  have hedited : accepted.span.replace ['-', ' ', 'o', 'x'] (accepted.insertText.toList ++ ['.'])
      = ['-', ' ', 'o', 's', '.', 'x'] := by decide
  have hcursor : accepted.span.start + accepted.insertText.toList.length + 1 = 5 := by decide
  have hordered : byKind [args, exit] = [exit, args] := by decide
  rw [hedited, hcursor, hordered] at hoffered
  exact ⟨hmem, hname, hoffered⟩

end Registry

end GoAssist
