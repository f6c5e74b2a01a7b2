import GoAssist.CommandLine.Assistant
import GoAssist.Proofs.Line.Cursor
import GoAssist.Proofs.Line.Grammar
import GoAssist.Proofs.Registry.Entries

/-!
# Filtering by what was typed

`complete` asks the first candidate which columns it replaces and filters by the text there, so the
cursor itself is not looked at again. That text is what was typed before the cursor: all candidates
replace those columns, and there are none only for an unknown package, after whose dot nothing has
been typed (`typedWord_candidatesAt`).

What was typed is empty exactly if no identifier character stands before the cursor
(`text_typedSpan_eq_nil_iff`). Then the filter lets everything through; otherwise the cursor is in
general position.
-/

namespace GoAssist

/-! ## What was typed -/

section Typed

variable {line : Line} {column : Nat}

/-- The text before a cursor is cut where what was typed begins. -/
theorem exists_typed (line : Line) (column : Nat) :
    ∃ before run, line.take column = before ++ run ∧ IsTail before run
      ∧ typedSpan line column = ⟨before.length, (line.take column).length⟩
      ∧ (typedSpan line column).text line = run := by
  obtain ⟨before, run, hsplit, htail, hspan⟩ := exists_run_analyze line column
  rw [span_analyze] at hspan
  refine ⟨before, run, hsplit, htail, hspan, ?_⟩
  have hline : line = before ++ run ++ line.drop column := by
    rw [← hsplit, List.take_append_drop]
  rw [hspan, hsplit, hline]
  exact Span.text_append before run (line.drop column)

theorem text_typedSpan_eq_nil_iff :
    (typedSpan line column).text line = []
      ↔ ∀ c ∈ (line.take column).getLast?, isIdentChar c = false := by
  obtain ⟨before, run, hsplit, htail, -, htext⟩ := exists_typed line column
  rw [htext, hsplit]
  constructor
  · rintro rfl
    rw [List.append_nil]
    exact htail.left
  · intro hlast
    by_contra hne
    have hmem : run.getLast hne ∈ (before ++ run).getLast? := by
      rw [List.getLast?_append, List.getLast?_eq_some_getLast hne, Option.some_or]
      rfl
    have hident := htail.ident _ (List.getLast_mem hne)
    rw [hlast _ hmem] at hident
    cases hident

/-- After a dot nothing has been typed. -/
theorem text_typedSpan_of_member {package : String}
    (h : (analyze line column).mode = .member package) :
    (typedSpan line column).text line = [] := by
  rw [← span_analyze, span_analyze_of_endsInMember (mode_analyze_eq_member_iff.mp h), Span.text,
    Span.length, Nat.sub_self, List.take_zero]

end Typed

namespace Registry

theorem goStandard_snippets : goStandard.snippets = GoStandard.snippets :=
  snippets_foldl_addPackage _

theorem generalCandidates_ne_nil {registry : Registry} (h : registry.snippets ≠ [])
    (span : Span) : registry.generalCandidates span ≠ [] := by
  intro hnil
  simp only [generalCandidates, List.append_eq_nil_iff, List.map_eq_nil_iff] at hnil
  exact h hnil.1.1.1

theorem candidatesAt_of_general {registry : Registry} {line : Line} {column : Nat}
    (h : (analyze line column).mode = .general) :
    registry.candidatesAt line column = registry.generalCandidates (typedSpan line column) := by
  rw [candidatesAt, candidates, h, span_analyze]

end Registry

namespace Command

/-! ## The typed word of a list -/

section Filter

variable {registry : Registry} (hsnippets : registry.snippets ≠ []) {line : Line}

theorem span_of_mem_candidatesAt {column : Nat} {candidate : Candidate}
    (h : candidate ∈ registry.candidatesAt line column) :
    candidate.span = typedSpan line column := by
  rw [Registry.span_of_mem_candidates h, span_analyze]

theorem shownCandidates_none {past : Nat} (h : line.length ≤ past) (filter : Bool) :
    shownCandidates registry line none filter
      = shownCandidates registry line (some past) filter := by
  have hend : registry.candidatesAt line past = registry.candidatesAt line line.length := by
    rw [← registry.candidatesAt_min_length line past, Nat.min_eq_right h]
  simp only [shownCandidates, Option.getD_none, Option.getD_some, hend]

include hsnippets

/-- The typed word is found from any list of candidates, the empty one too. -/
theorem typedWord_candidatesAt (line : Line) (column : Nat) :
    typedWord line (registry.candidatesAt line column) = (typedSpan line column).text line := by
  cases hcandidates : registry.candidatesAt line column with
  | cons candidate rest =>
      rw [typedWord, span_of_mem_candidatesAt (hcandidates ▸ List.mem_cons_self)]
  | nil =>
      rw [typedWord]
      cases hmode : (analyze line column).mode with
      | member package => exact (text_typedSpan_of_member hmode).symm
      | general =>
          rw [Registry.candidatesAt_of_general hmode] at hcandidates
          exact absurd hcandidates (Registry.generalCandidates_ne_nil hsnippets _)

theorem shownCandidates_filter (line : Line) (column : Option Nat) :
    shownCandidates registry line column true
      = rank (shownCandidates registry line column false)
          ((typedSpan line (column.getD line.length)).text line) := by
  simp only [shownCandidates, if_true, Bool.false_eq_true, if_false,
    typedWord_candidatesAt hsnippets]

/-- Where nothing has been typed, the filter lets everything through. -/
theorem shownCandidates_of_text_eq_nil {column : Option Nat}
    (h : (typedSpan line (column.getD line.length)).text line = []) :
    shownCandidates registry line column true = shownCandidates registry line column false := by
  rw [shownCandidates_filter hsnippets, h, rank_nil]

/-- Where something has been typed, what is offered anywhere is filtered by it. -/
theorem shownCandidates_of_text_ne_nil {column : Option Nat}
    (h : (typedSpan line (column.getD line.length)).text line ≠ []) :
    shownCandidates registry line column true
      = rank (registry.generalCandidates (typedSpan line (column.getD line.length)))
          ((typedSpan line (column.getD line.length)).text line) := by
  rw [shownCandidates_filter hsnippets]
  simp only [shownCandidates, Bool.false_eq_true, if_false]
  cases hmode : (analyze line (column.getD line.length)).mode with
  | general => rw [Registry.candidatesAt_of_general hmode]
  | member package => exact absurd (text_typedSpan_of_member hmode) h

end Filter

/-- `complete` filters by exactly what was typed. The columns that its candidates replace lie in the
line, each start before its stop, and the text that the first candidate replaces is what was typed,
also where there is no candidate. So where no identifier character stands before the cursor, as in
every member position, the filter lets everything through; elsewhere it leaves at most fifteen of
what is offered in general position, ranked by the longest run of identifier characters before the
cursor. With no column given the cursor is at the end of the line, as for every column past it. -/
theorem shownCandidates_by_typed_word (line : Line) (column : Option Nat) :
    let registry := Registry.goStandard
    let cursor := column.getD line.length
    let before := line.take cursor
    let shown := shownCandidates registry line column
    (∀ candidate ∈ registry.candidatesAt line cursor,
      candidate.span.start ≤ candidate.span.stop ∧ candidate.span.stop ≤ line.length)
    ∧ typedWord line (registry.candidatesAt line cursor) = (typedSpan line cursor).text line
    ∧ ((∀ c ∈ before.getLast?, isIdentChar c = false) → shown true = shown false)
    ∧ (∀ package, (analyze line cursor).mode = .member package → shown true = shown false)
    ∧ ((∃ c ∈ before.getLast?, isIdentChar c = true) →
        ∃ rest run, before = rest ++ run ∧ IsTail rest run ∧ run ≠ []
          ∧ shown true = rank (registry.generalCandidates ⟨rest.length, before.length⟩) run
          ∧ (shown true).length ≤ 15)
    ∧ ∀ past, line.length ≤ past → ∀ filter,
        shownCandidates registry line none filter
          = shownCandidates registry line (some past) filter := by
  intro registry cursor before shown
  have hsnippets : registry.snippets ≠ [] := by
    rw [Registry.goStandard_snippets]
    exact List.cons_ne_nil _ _
  obtain ⟨rest, run, hsplit, htail, hspan, htext⟩ := exists_typed line cursor
  refine ⟨fun candidate h => ?_, typedWord_candidatesAt hsnippets line cursor, fun h => ?_,
    fun package h => ?_, fun h => ?_, fun past h => shownCandidates_none h⟩
  · rw [span_of_mem_candidatesAt h, hspan]
    refine ⟨?_, List.length_take_le' _ _⟩
    rw [hsplit, List.length_append]
    exact Nat.le_add_right _ _
  · exact shownCandidates_of_text_eq_nil hsnippets (text_typedSpan_eq_nil_iff.mpr h)
  · exact shownCandidates_of_text_eq_nil hsnippets (text_typedSpan_of_member h)
  · have htyped : (typedSpan line cursor).text line ≠ [] := by
      obtain ⟨c, hc, hident⟩ := h
      intro hnil
      rw [text_typedSpan_eq_nil_iff.mp hnil c hc] at hident
      cases hident
    have hrank : shown true
        = rank (registry.generalCandidates ⟨rest.length, before.length⟩) run := by
      rw [← hspan, ← htext]
      exact shownCandidates_of_text_ne_nil hsnippets htyped
    have hrun : run ≠ [] := htext ▸ htyped
    refine ⟨rest, run, hsplit, htail, hrun, hrank, ?_⟩
    rw [hrank]
    exact length_rank_le hrun

end Command

end GoAssist
