import GoAssist.Completion.Candidate
import GoAssist.Hover
import GoAssist.Proofs.Line.Run

/-!
# One cursor, three scans

What a cursor replaces is found by a scan of the text before it, what it classifies by another one, and
the word at it by two scans of the whole line. They agree since they all cut the line in the same way:
a run of identifier characters lies around the cursor, and its part before the cursor is what was typed
(`exists_cut`). So a replacement begins where the word begins and ends at the cursor
(`typedSpan_of_wordAt?`), and it is empty where there is no word (`typedSpan_of_wordAt?_eq_none`).
-/

namespace GoAssist

variable {line : Line} {column : Nat}

/-! ## Columns past the end -/

theorem analyze_min_length (line : Line) (column : Nat) :
    analyze line (min column line.length) = analyze line column := by
  have htake : line.take (min column line.length) = line.take column :=
    List.take_eq_take_min.symm
  simp only [analyze, htake]

theorem wordAt?_min_length (line : Line) (column : Nat) :
    wordAt? line (min column line.length) = wordAt? line column := by
  have hmin : min (min column line.length) line.length = min column line.length := by omega
  simp only [wordAt?, hmin]

namespace Registry

theorem candidatesAt_min_length (registry : Registry) (line : Line) (column : Nat) :
    registry.candidatesAt line (min column line.length) = registry.candidatesAt line column := by
  rw [candidatesAt, analyze_min_length, candidatesAt]

theorem hoverAt?_min_length (registry : Registry) (line : Line) (column : Nat) :
    registry.hoverAt? line (min column line.length) = registry.hoverAt? line column := by
  rw [hoverAt?, wordAt?_min_length, hoverAt?]

end Registry

/-! ## The run around the cursor -/

/-- The cursor cuts the run around it into what was typed and what comes after. -/
theorem exists_cut (line : Line) (column : Nat) :
    ∃ before tail head : List Char, (before ++ tail).length = min column line.length
      ∧ typedSpan line column = ⟨before.length, (before ++ tail).length⟩
      ∧ (typedSpan line column).text line = tail
      ∧ wordAt? line column = if tail ++ head = [] then none
          else some ⟨tail ++ head, ⟨before.length, (before ++ (tail ++ head)).length⟩⟩ := by
  obtain ⟨before, tail, head, rest, hline, hword, hcolumn⟩ := exists_isWord line column
  have hcut : line = before ++ tail ++ (head ++ rest) := by
    rw [hline]
    simp only [List.append_assoc]
  have hspan : typedSpan line column = ⟨before.length, (before ++ tail).length⟩ := by
    rw [← typedSpan_min_length, ← hcolumn, hcut]
    exact typedSpan_of_isTail hword.toIsTail.of_append (head ++ rest)
  refine ⟨before, tail, head, hcolumn, hspan, ?_, ?_⟩
  · rw [hspan, hcut]
    exact Span.text_append before tail (head ++ rest)
  · rw [hline] at hcolumn ⊢
    exact wordAt?_of_isWord hword hcolumn

theorem stop_typedSpan (line : Line) (column : Nat) :
    (typedSpan line column).stop = min column line.length := by
  rw [typedSpan, List.length_take]

/-- At a word, what was typed is its part before the cursor. -/
theorem typedSpan_of_wordAt? {word : Word} (h : wordAt? line column = some word) :
    typedSpan line column = ⟨word.span.start, min column line.length⟩
      ∧ (typedSpan line column).text line = word.text.take (min column line.length - word.span.start)
      ∧ min column line.length ≤ word.span.stop := by
  obtain ⟨before, tail, head, hcolumn, hspan, htext, hword⟩ := exists_cut line column
  rw [hword] at h
  split at h
  · cases h
  · obtain rfl := Option.some.inj h
    refine ⟨?_, ?_, ?_⟩
    · rw [hspan, hcolumn]
    · have htyped : min column line.length - before.length = tail.length := by
        rw [← hcolumn, List.length_append]
        omega
      rw [htext, htyped, List.take_left]
    · rw [← hcolumn]
      simp only [List.length_append]
      omega

/-- Where there is no word, nothing was typed. -/
theorem typedSpan_of_wordAt?_eq_none (h : wordAt? line column = none) :
    typedSpan line column = ⟨min column line.length, min column line.length⟩ := by
  obtain ⟨before, tail, head, hcolumn, hspan, -, hword⟩ := exists_cut line column
  rw [hword] at h
  split at h
  · rename_i hempty
    rw [(List.append_eq_nil_iff.mp hempty).1, List.append_nil] at hspan hcolumn
    rw [hspan, hcolumn]
  · cases h

/-- The scans at a cursor agree. What a classified cursor replaces is what was typed, which ends at the
cursor. All answers at a column past the end of the line are those at its end. At a word, what was typed
is the part of the word before the cursor, and elsewhere it is empty: so it is not empty only inside or at
the end of the word that is explained, and it has nothing of what comes after the cursor. -/
theorem scans_agree (registry : Registry) (line : Line) (column : Nat) :
    let cursor := min column line.length
    let typed := typedSpan line column
    (analyze line column).span = typed ∧ typed.stop = cursor
    ∧ (analyze line column = analyze line cursor
      ∧ typed = typedSpan line cursor
      ∧ wordAt? line column = wordAt? line cursor
      ∧ registry.candidatesAt line column = registry.candidatesAt line cursor
      ∧ registry.hoverAt? line column = registry.hoverAt? line cursor)
    ∧ (∀ word, wordAt? line column = some word →
        typed = ⟨word.span.start, cursor⟩
        ∧ typed.text line = word.text.take (cursor - word.span.start))
    ∧ (wordAt? line column = none → typed = ⟨cursor, cursor⟩)
    ∧ (typed.start < typed.stop →
        ∃ word, wordAt? line column = some word
          ∧ registry.hoverAt? line column = registry.hover? (String.ofList word.text)
          ∧ word.span.start < cursor ∧ cursor ≤ word.span.stop) := by
  intro cursor typed
  have hclamped : analyze line column = analyze line cursor
      ∧ typed = typedSpan line cursor
      ∧ wordAt? line column = wordAt? line cursor
      ∧ registry.candidatesAt line column = registry.candidatesAt line cursor
      ∧ registry.hoverAt? line column = registry.hoverAt? line cursor :=
    ⟨(analyze_min_length line column).symm, (typedSpan_min_length line column).symm,
      (wordAt?_min_length line column).symm, (registry.candidatesAt_min_length line column).symm,
      (registry.hoverAt?_min_length line column).symm⟩
  refine ⟨span_analyze line column, stop_typedSpan line column, hclamped, ?_,
    typedSpan_of_wordAt?_eq_none, ?_⟩
  · intro word hword
    obtain ⟨hspan, htext, -⟩ := typedSpan_of_wordAt? hword
    exact ⟨hspan, htext⟩
  · intro hlt
    cases hword : wordAt? line column with
    | none =>
        rw [show typed = _ from typedSpan_of_wordAt?_eq_none hword] at hlt
        exact absurd hlt (Nat.lt_irrefl _)
    | some word =>
        obtain ⟨hspan, -, hstop⟩ := typedSpan_of_wordAt? hword
        rw [show typed = _ from hspan] at hlt
        refine ⟨word, rfl, ?_, hlt, hstop⟩
        rw [Registry.hoverAt?, hword, Option.bind_some]

end GoAssist
