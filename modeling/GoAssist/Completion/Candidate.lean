import GoAssist.Completion.Placeholder
import GoAssist.Line.Context
import GoAssist.Registry.Basic

/-!
# Completion candidates

In member position the members of the package are offered, and nothing if it is unknown. In general
position these are, in this order: snippets, keywords, types and package names. Every candidate
replaces the same columns (`span_of_mem_candidates`).
-/

namespace GoAssist

/-- What a candidate stands for. -/
inductive CandidateKind where
  | function
  | constant
  | variable
  | snippet
  | keyword
  | type
  | module
  deriving DecidableEq, Repr, Inhabited

/-- The kind's name in answers. -/
def CandidateKind.name : CandidateKind → String
  | .function => "function"
  | .constant => "constant"
  | .variable => "variable"
  | .snippet => "snippet"
  | .keyword => "keyword"
  | .type => "type"
  | .module => "module"

/-- A member's kind as a candidate. -/
def SymbolKind.toCandidateKind : SymbolKind → CandidateKind
  | .function => .function
  | .constant => .constant
  | .variable => .variable

/-- One suggestion. -/
structure Candidate where
  /-- The name shown. -/
  label : String
  /-- What it stands for. -/
  kind : CandidateKind
  /-- The text that it inserts. -/
  insertText : String
  /-- A line of explanation. -/
  detail : Option String
  /-- The columns that it replaces. -/
  span : Span
  deriving DecidableEq, Repr, Inhabited

/-- Whether the inserted text has tab stops. -/
def Candidate.isSnippet (candidate : Candidate) : Bool :=
  hasPlaceholders candidate.insertText

namespace Candidate

/-- The candidate for a package member. -/
def ofSymbol (span : Span) (symbol : Symbol) : Candidate :=
  ⟨symbol.label, symbol.kind.toCandidateKind, symbol.template, some symbol.signature, span⟩

/-- The candidate for a snippet. -/
def ofSnippet (span : Span) (snippet : Snippet) : Candidate :=
  ⟨snippet.label, .snippet, snippet.template, some snippet.description, span⟩

/-- The candidate for a keyword. -/
def ofKeyword (span : Span) (keyword : String) : Candidate :=
  ⟨keyword, .keyword, keyword, none, span⟩

/-- The candidate for a predeclared type. -/
def ofType (span : Span) (type : String) : Candidate :=
  ⟨type, .type, type, none, span⟩

/-- The candidate for a package name. -/
def ofPackageName (span : Span) (name : String) : Candidate :=
  ⟨name, .module, name, some ("Package " ++ name), span⟩

end Candidate

namespace Registry

/-- The members of a package as candidates. -/
def memberCandidates (registry : Registry) (package : String) (span : Span) : List Candidate :=
  match registry.lookup? package with
  | none => []
  | some entry => entry.symbols.map (.ofSymbol span)

/-- The candidates in general position. -/
def generalCandidates (registry : Registry) (span : Span) : List Candidate :=
  registry.snippets.map (.ofSnippet span) ++ registry.keywords.map (.ofKeyword span)
    ++ registry.types.map (.ofType span) ++ registry.packageNames.map (.ofPackageName span)

/-- The candidates for a classified cursor. -/
def candidates (registry : Registry) (context : Context) : List Candidate :=
  match context.mode with
  | .member package => registry.memberCandidates package context.span
  | .general => registry.generalCandidates context.span

/-- The candidates at a column of a line. -/
def candidatesAt (registry : Registry) (line : Line) (column : Nat) : List Candidate :=
  registry.candidates (analyze line column)

/-- Every candidate replaces the columns of the context. -/
theorem span_of_mem_candidates {registry : Registry} {context : Context} {candidate : Candidate}
    (h : candidate ∈ registry.candidates context) : candidate.span = context.span := by
  unfold candidates at h
  split at h
  · unfold memberCandidates at h
    split at h
    · simp at h
    · obtain ⟨symbol, -, rfl⟩ := List.mem_map.mp h
      rfl
  · simp only [generalCandidates, List.mem_append, List.mem_map] at h
    rcases h with ((⟨_, -, rfl⟩ | ⟨_, -, rfl⟩) | ⟨_, -, rfl⟩) | ⟨_, -, rfl⟩ <;> rfl

end Registry

end GoAssist
