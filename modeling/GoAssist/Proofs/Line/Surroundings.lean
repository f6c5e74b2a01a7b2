import GoAssist.Completion.Candidate
import GoAssist.Hover
import GoAssist.Proofs.Line.Run

/-!
# What the text around an identifier does to answers

Answers at a column read the identifier around it, the dot and the name before it, and nothing else of
the line. Text that ends in no identifier character can be put before a line: the cuts of the line stay
where they are (`IsTail.append_left`), so every scan finds the same and answers move with the line
(`analyze_append_left`, `wordAt?_append_left`). Text after the line does nothing to completion, which
looks backwards only, and nothing to an explanation unless it makes the last word longer
(`wordAt?_append_right`).

One place is excluded: the start of the line itself is a place after what was put before it, and that
may end in a name and a dot.
-/

namespace GoAssist

/-! ## Shifted columns -/

/-- The columns of the same text after `offset` more characters. -/
def Span.shift (offset : Nat) (span : Span) : Span :=
  ⟨offset + span.start, offset + span.stop⟩

/-- The word after `offset` more characters. -/
def Word.shift (offset : Nat) (word : Word) : Word :=
  { word with span := word.span.shift offset }

/-- The cursor after `offset` more characters. -/
def Context.shift (offset : Nat) (context : Context) : Context :=
  { context with span := context.span.shift offset }

/-- The candidate after `offset` more characters. -/
def Candidate.shift (offset : Nat) (candidate : Candidate) : Candidate :=
  { candidate with span := candidate.span.shift offset }

variable {line : Line} {column : Nat}

/-! ## Text before a line -/

section Before

variable {front : List Char} (hfront : ∀ c ∈ front.getLast?, isIdentChar c = false)

include hfront

theorem IsTail.append_left {before tail : List Char} (h : IsTail before tail) :
    IsTail (front ++ before) tail := by
  refine ⟨h.ident, fun c hc => ?_⟩
  rw [List.getLast?_append, Option.mem_def, Option.or_eq_some_iff] at hc
  rcases hc with hc | ⟨-, hc⟩
  · exact h.left c hc
  · exact hfront c hc

theorem IsWord.append_left {before word rest : List Char} (h : IsWord before word rest) :
    IsWord (front ++ before) word rest :=
  ⟨h.toIsTail.append_left hfront, h.right⟩

theorem identSuffix_append_left (text : List Char) :
    identSuffix (front ++ text) = identSuffix text := by
  obtain ⟨before, hbefore, htail⟩ := exists_isTail text
  have hcut := (htail.append_left hfront).identSuffix_append
  rwa [List.append_assoc, ← hbefore] at hcut

theorem packageBeforeDot?_append_left {text : List Char} (htext : text ≠ []) :
    packageBeforeDot? (front ++ text) = packageBeforeDot? text := by
  have hlast : (front ++ text).getLast? = text.getLast? := by
    rw [List.getLast?_append, List.getLast?_eq_some_getLast htext, Option.some_or]
  simp only [packageBeforeDot?, hlast, List.dropLast_append_of_ne_nil htext,
    identSuffix_append_left hfront]

theorem typedSpan_append_left (line : Line) (column : Nat) :
    typedSpan (front ++ line) (front.length + column)
      = (typedSpan line column).shift front.length := by
  obtain ⟨before, typed, rest, rfl, htail, hcolumn⟩ := exists_isTail_at line column
  have hcursor : (front ++ before ++ typed).length
      = min (front.length + column) (front ++ (before ++ typed ++ rest)).length := by
    simp only [List.length_append] at hcolumn ⊢
    omega
  have hline : front ++ (before ++ typed ++ rest) = front ++ before ++ typed ++ rest := by
    simp only [List.append_assoc]
  rw [← typedSpan_min_length, ← hcursor, ← typedSpan_min_length _ column, ← hcolumn, hline,
    typedSpan_of_isTail (htail.append_left hfront), typedSpan_of_isTail htail, Span.shift]
  simp only [List.length_append, Nat.add_assoc]

theorem analyze_append_left (hline : line ≠ []) (hcolumn : 1 ≤ column) :
    analyze (front ++ line) (front.length + column) = (analyze line column).shift front.length := by
  -- At the first column the text before the cursor would be `front` alone, dot and all.
  have hbefore : line.take column ≠ [] := by
    rw [ne_eq, List.take_eq_nil_iff, not_or]
    exact ⟨Nat.ne_of_gt hcolumn, hline⟩
  have hmode : (analyze (front ++ line) (front.length + column)).mode
      = (analyze line column).mode := by
    simp only [analyze, List.take_length_add_append, packageBeforeDot?_append_left hfront hbefore]
  have hspan : (analyze (front ++ line) (front.length + column)).span
      = (analyze line column).span.shift front.length :=
    typedSpan_append_left hfront line column
  rw [Context.shift, ← hspan, ← hmode]

theorem wordAt?_append_left (line : Line) (column : Nat) :
    wordAt? (front ++ line) (front.length + column)
      = (wordAt? line column).map (Word.shift front.length) := by
  obtain ⟨before, tail, head, rest, rfl, hword, hcolumn⟩ := exists_isWord line column
  have hline : front ++ (before ++ (tail ++ head) ++ rest)
      = front ++ before ++ (tail ++ head) ++ rest := by
    simp only [List.append_assoc]
  have hcursor : (front ++ before ++ tail).length
      = min (front.length + column) (front ++ before ++ (tail ++ head) ++ rest).length := by
    simp only [List.length_append] at hcolumn ⊢
    omega
  rw [hline, wordAt?_of_isWord (hword.append_left hfront) hcursor, wordAt?_of_isWord hword hcolumn]
  split
  · rfl
  · simp only [Option.map_some, Word.shift, Span.shift, List.length_append, Nat.add_assoc]

end Before

/-! ## Text after a line -/

section After

variable {after : List Char} (hafter : ∀ c ∈ after.head?, isIdentChar c = false)

include hafter

theorem IsWord.append_right {before word rest : List Char} (h : IsWord before word rest) :
    IsWord before word (rest ++ after) := by
  refine ⟨h.toIsTail, fun c hc => ?_⟩
  rw [List.head?_append, Option.mem_def, Option.or_eq_some_iff] at hc
  rcases hc with hc | ⟨-, hc⟩
  · exact h.right c hc
  · exact hafter c hc

theorem wordAt?_append_right (hcolumn : column ≤ line.length) :
    wordAt? (line ++ after) column = wordAt? line column := by
  obtain ⟨before, tail, head, rest, rfl, hword, hcut⟩ := exists_isWord line column
  have hcursor : (before ++ tail).length
      = min column (before ++ (tail ++ head) ++ (rest ++ after)).length := by
    rw [hcut]
    simp only [List.length_append] at hcolumn ⊢
    omega
  rw [List.append_assoc _ rest after, wordAt?_of_isWord (hword.append_right hafter) hcursor,
    wordAt?_of_isWord hword hcut]

end After

/-! ## Answers -/

namespace Registry

theorem candidates_shift (registry : Registry) (offset : Nat) (context : Context) :
    registry.candidates (context.shift offset)
      = (registry.candidates context).map (Candidate.shift offset) := by
  obtain ⟨mode, span⟩ := context
  cases mode with
  | general =>
      simp only [candidates, Context.shift, generalCandidates, List.map_append, List.map_map]
      rfl
  | member package =>
      simp only [candidates, Context.shift, memberCandidates]
      cases registry.lookup? package with
      | none => rfl
      | some entry =>
          simp only [List.map_map]
          rfl

/-- Answers read the identifier around a column, and the name before its dot, and nothing else of the
line. After a text that is empty or ends in no identifier character, a line that is not empty is
completed as it is alone, with the columns moved behind that text, at every column but its first; and
every line is explained as it is alone. A text that follows up to the end of the line does nothing to
completion at the columns of the line, and nothing to an explanation if it is empty or begins with no
identifier character. -/
theorem answers_ignore_surroundings (registry : Registry) (line : Line) (column : Nat) :
    (∀ front : List Char, (∀ c ∈ front.getLast?, isIdentChar c = false) →
      (line ≠ [] → 1 ≤ column →
        registry.candidatesAt (front ++ line) (front.length + column)
          = (registry.candidatesAt line column).map (Candidate.shift front.length))
      ∧ registry.hoverAt? (front ++ line) (front.length + column) = registry.hoverAt? line column)
    ∧ ∀ after : List Char, column ≤ line.length →
      registry.candidatesAt (line ++ after) column = registry.candidatesAt line column
      ∧ ((∀ c ∈ after.head?, isIdentChar c = false) →
        registry.hoverAt? (line ++ after) column = registry.hoverAt? line column) := by
  refine ⟨fun front hfront => ⟨fun hline hcolumn => ?_, ?_⟩,
    fun after hcolumn => ⟨?_, fun hafter => ?_⟩⟩
  · rw [candidatesAt, analyze_append_left hfront hline hcolumn, candidates_shift, candidatesAt]
  · -- An explanation reads the text of the word, which does not move.
    rw [hoverAt?, wordAt?_append_left hfront, Option.bind_map, hoverAt?]
    rfl
  · rw [candidatesAt, analyze_append after hcolumn, candidatesAt]
  · rw [hoverAt?, wordAt?_append_right hafter hcolumn, hoverAt?]

/-- Directly after a dot, where the member that stands there is completed and explained: inside the
brackets of a call, and before its own. -/
theorem answers_ignore_surroundings_of_call :
    let registry : Registry := ofEntries
      [.ofSymbols "os" [⟨"Exit", "Exit($1)", "func Exit(code int)", .function⟩]] [] [] []
    let line : Line := ['o', 's', '.', 'E', 'x', 'i', 't']
    let front := ['f', '(']
    let after := ['(', '0', ')']
    let offered (column : Nat) : List Candidate :=
      [⟨"Exit", .function, "Exit($1)", some "func Exit(code int)", ⟨column, column⟩⟩]
    let explained : Hover := ⟨"**os.Exit**", ["func Exit(code int)"]⟩
    ((∀ c ∈ front.getLast?, isIdentChar c = false) ∧ line ≠ [] ∧ 1 ≤ 3
      ∧ registry.candidatesAt (front ++ line) (front.length + 3) = offered 5
      ∧ registry.hoverAt? (front ++ line) (front.length + 3) = some explained)
    ∧ 3 ≤ line.length ∧ (∀ c ∈ after.head?, isIdentChar c = false)
      ∧ registry.candidatesAt (line ++ after) 3 = offered 3
      ∧ registry.hoverAt? (line ++ after) 3 = some explained := by
  intro registry line front after offered explained
  -- Both texts have a bracket next to the line.
  have hbracket : ∀ c ∈ some '(', isIdentChar c = false := by
    rintro _ ⟨⟩
    decide
  have hline : line ≠ [] := List.cons_ne_nil _ _
  have hcolumn : 3 ≤ line.length := by decide
  have hoffered : registry.candidatesAt line 3 = offered 3 := by decide +kernel
  have hexplained : registry.hoverAt? line 3 = some explained := by decide +kernel
  obtain ⟨hbefore, hbehind⟩ := answers_ignore_surroundings registry line 3
  obtain ⟨hcomplete, hhover⟩ := hbefore front hbracket
  obtain ⟨hcomplete', hhover'⟩ := hbehind after hcolumn
  refine ⟨⟨hbracket, hline, by decide, ?_, hhover.trans hexplained⟩, hcolumn, hbracket,
    hcomplete'.trans hoffered, (hhover' hbracket).trans hexplained⟩
  rw [hcomplete hline (by decide), hoffered]
  rfl

/-- At the start of the line a dot before it counts, and past its end or in a word what follows does. -/
example :
    let registry : Registry := ofEntries [.ofSymbols "os" []] ["go"] [] []
    registry.candidatesAt (['o', 's', '.'] ++ ['x']) 3
        ≠ (registry.candidatesAt ['x'] 0).map (Candidate.shift 3)
      ∧ registry.candidatesAt (['x'] ++ ['y']) 2 ≠ registry.candidatesAt ['x'] 2
      ∧ registry.hoverAt? (['g'] ++ ['o']) 1 ≠ registry.hoverAt? ['g'] 1 := by
  decide +kernel

end Registry

end GoAssist
