import GoAssist.Completion.Candidate
import GoAssist.Proofs.Registry.Entries

/-!
# The candidates in general position

What is offered in general position are four groups, one of each kind that is offered there, and a group
is the names of its kind in the order of the registry. `filter_generalCandidates` says both: to pick the
candidates of a kind is to pick their group.

A name may stand in several groups, so it is a name with its kind that is offered once or more often.
How often is counted inside the group (`count_label_kind`), and so nothing is offered twice exactly if
no group has a name twice (`nodup_label_kind_iff`). The packages never have, since a registry keeps one
of each name.
-/

namespace GoAssist

/-! ## Names and kinds of candidates -/

/-- A name is offered under a kind as often as it is among the names of that kind. -/
theorem count_label_kind (candidates : List Candidate) (label : String) (kind : CandidateKind) :
    (candidates.map fun c => (c.label, c.kind)).count (label, kind)
      = ((candidates.filter fun c => c.kind == kind).map Candidate.label).count label := by
  rw [List.count, List.count, List.countP_map, List.countP_map, List.countP_filter]
  refine List.countP_congr fun c _ => ?_
  simp

theorem nodup_label_kind_iff (candidates : List Candidate) :
    (candidates.map fun c => (c.label, c.kind)).Nodup
      ↔ ∀ kind, ((candidates.filter fun c => c.kind == kind).map Candidate.label).Nodup := by
  simp only [List.nodup_iff_count_le_one, Prod.forall, count_label_kind]
  exact forall_comm

/-- The candidates made in one way are all of a kind or none of them is. -/
theorem filter_kind_map {α : Type} (make : α → Candidate) {own : CandidateKind}
    (h : ∀ a, (make a).kind = own) (names : List α) (kind : CandidateKind) :
    (names.map make).filter (fun c => c.kind == kind)
      = if own = kind then names.map make else [] := by
  split
  · rename_i hkind
    refine List.filter_eq_self.mpr fun c hc => ?_
    obtain ⟨a, -, rfl⟩ := List.mem_map.mp hc
    exact beq_iff_eq.mpr ((h a).trans hkind)
  · rename_i hkind
    refine List.filter_eq_nil_iff.mpr fun c hc => ?_
    obtain ⟨a, -, rfl⟩ := List.mem_map.mp hc
    exact fun heq => hkind ((h a).symm.trans (eq_of_beq heq))

/-! ## The groups -/

/-- The kinds of what is offered in general position, in the order of their groups. -/
def generalKinds : List CandidateKind :=
  [.snippet, .keyword, .type, .module]

/-- The names that are offered as a kind in general position, in order: those given, but of the packages
only those that are kept. -/
def generalNames (packages : List Package) (keywords types : List String)
    (snippets : List Snippet) : CandidateKind → List String
  | .snippet => snippets.map Snippet.label
  | .keyword => keywords
  | .type => types
  | .module => (firstOfEachName packages).map Package.name
  | .function | .constant | .variable => []

namespace Registry

/-- The candidates of a kind in general position. -/
def generalGroup (registry : Registry) (span : Span) : CandidateKind → List Candidate
  | .snippet => registry.snippets.map (.ofSnippet span)
  | .keyword => registry.keywords.map (.ofKeyword span)
  | .type => registry.types.map (.ofType span)
  | .module => registry.packageNames.map (.ofPackageName span)
  | .function | .constant | .variable => []

theorem generalCandidates_eq_flatMap (registry : Registry) (span : Span) :
    registry.generalCandidates span = generalKinds.flatMap (registry.generalGroup span) := by
  simp only [generalCandidates, generalKinds, generalGroup, List.flatMap_cons, List.flatMap_nil,
    List.append_nil, List.append_assoc]

theorem filter_generalCandidates (registry : Registry) (span : Span) (kind : CandidateKind) :
    (registry.generalCandidates span).filter (fun c => c.kind == kind)
      = registry.generalGroup span kind := by
  have hsnippets := filter_kind_map (.ofSnippet span) (fun _ => rfl) registry.snippets kind
  have hkeywords := filter_kind_map (.ofKeyword span) (fun _ => rfl) registry.keywords kind
  have htypes := filter_kind_map (.ofType span) (fun _ => rfl) registry.types kind
  have hpackages :=
    filter_kind_map (.ofPackageName span) (fun _ => rfl) registry.packageNames kind
  simp only [generalCandidates, List.filter_append, hsnippets, hkeywords, htypes, hpackages]
  cases kind <;> simp [generalGroup]

section Entries

variable (packages : List Package) (keywords types : List String) (snippets : List Snippet)

theorem map_label_generalGroup_ofEntries (span : Span) (kind : CandidateKind) :
    ((ofEntries packages keywords types snippets).generalGroup span kind).map Candidate.label
      = generalNames packages keywords types snippets kind := by
  have hlists : (ofEntries packages keywords types snippets).keywords = keywords
      ∧ (ofEntries packages keywords types snippets).types = types :=
    lists_foldl_addPackage packages
  have hsnippets : (ofEntries packages keywords types snippets).snippets = snippets :=
    snippets_foldl_addPackage packages
  have hpackages := toList_packages_ofEntries packages keywords types snippets
  cases kind with
  | snippet => rw [generalGroup, hsnippets, List.map_map]; rfl
  | keyword => rw [generalGroup, hlists.1, List.map_map]; exact List.map_id keywords
  | type => rw [generalGroup, hlists.2, List.map_map]; exact List.map_id types
  | module => rw [generalGroup, packageNames, hpackages, List.map_map, List.map_map]; rfl
  | function => rfl
  | constant => rfl
  | «variable» => rfl

/-- Names are kept once, so they are distinct in all groups if they are in those that nothing is dropped
from. -/
theorem nodup_generalNames_iff :
    (∀ kind, (generalNames packages keywords types snippets kind).Nodup)
      ↔ (snippets.map Snippet.label).Nodup ∧ keywords.Nodup ∧ types.Nodup := by
  constructor
  · exact fun h => ⟨h .snippet, h .keyword, h .type⟩
  · rintro ⟨hsnippets, hkeywords, htypes⟩ kind
    cases kind with
    | snippet => exact hsnippets
    | keyword => exact hkeywords
    | type => exact htypes
    | module => exact nodup_firstOfEachName packages
    | function => exact List.nodup_nil
    | constant => exact List.nodup_nil
    | «variable» => exact List.nodup_nil

/-- In general position a registry offers a name under a kind as often as the name was given for it, and
a package name once if any package of the name was given. All snippets come first, then all keywords,
then all types, then all packages, each group in the order given, and all replace the given columns. So
no two candidates have both name and kind in common exactly if the snippets, the keywords and the types
have distinct names each, whatever names they share and whatever packages were given twice. -/
theorem candidates_general_by_kind (span : Span) :
    let offered := (ofEntries packages keywords types snippets).candidates ⟨.general, span⟩
    let names := generalNames packages keywords types snippets
    (∀ label kind, (offered.map fun c => (c.label, c.kind)).count (label, kind)
        = (names kind).count label)
    ∧ offered = generalKinds.flatMap (fun kind => offered.filter fun c => c.kind == kind)
    ∧ (∀ kind, (offered.filter fun c => c.kind == kind).map Candidate.label = names kind)
    ∧ (∀ candidate ∈ offered, candidate.span = span)
    ∧ ((offered.map fun c => (c.label, c.kind)).Nodup
      ↔ (snippets.map Snippet.label).Nodup ∧ keywords.Nodup ∧ types.Nodup) := by
  intro offered names
  have hgroup : ∀ kind, offered.filter (fun c => c.kind == kind)
      = (ofEntries packages keywords types snippets).generalGroup span kind :=
    filter_generalCandidates _ span
  have hnames : ∀ kind, (offered.filter fun c => c.kind == kind).map Candidate.label
      = names kind := by
    intro kind
    rw [hgroup kind]
    exact map_label_generalGroup_ofEntries packages keywords types snippets span kind
  refine ⟨fun label kind => ?_, ?_, hnames, fun candidate h => ?_, ?_⟩
  · rw [count_label_kind, hnames kind]
  · simp only [hgroup]
    exact generalCandidates_eq_flatMap _ span
  · exact span_of_mem_candidates h
  · rw [nodup_label_kind_iff, ← nodup_generalNames_iff packages]
    exact forall_congr' fun kind => by rw [hnames kind]

end Entries

/-- A name that is a snippet and a keyword is offered as both, and a package given twice once. -/
example :
    ((ofEntries [.ofSymbols "os" [], .ofSymbols "os" []] ["for"] [] [⟨"for", "for", ""⟩]).candidates
      ⟨.general, ⟨0, 0⟩⟩).map (fun c => (c.label, c.kind))
      = [("for", .snippet), ("for", .keyword), ("os", .module)] := by
  decide +kernel

end Registry

end GoAssist
