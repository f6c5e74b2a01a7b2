import GoAssist.Proofs.Line.Run
import Mathlib.Logic.ExistsUnique

/-!
# The words that cut a line

The words of a line are its longest runs of identifier characters. `IsRun` says so by the columns of the
line alone: identifier characters stand at all columns of a run, and at none next to it. Two runs that
touch one column are one run (`IsRun.eq_of_touches`), since otherwise one of them would go on where the
other ends.

The two scans from a column, backwards and forwards, find the run that touches it
(`wordAt?_eq_some_iff_isRun`), so all columns that a word touches have the same word, other columns have
words that something stands between, and every identifier character is in one word
(`wordAt?_cuts_line`).
-/

namespace GoAssist

/-- An identifier character stands at a column. -/
def IdentAt (text : Line) (column : Nat) : Prop :=
  ∃ c ∈ text[column]?, isIdentChar c = true

/-- The columns of a longest run of identifier characters. -/
structure IsRun (line : Line) (span : Span) : Prop where
  start_lt_stop : span.start < span.stop
  ident : ∀ i, span.start ≤ i → i < span.stop → IdentAt line i
  left : 0 < span.start → ¬IdentAt line (span.start - 1)
  right : ¬IdentAt line span.stop

/-- A column is in a span or at its end. -/
def Span.Touches (span : Span) (column : Nat) : Prop :=
  span.start ≤ column ∧ column ≤ span.stop

variable {line : Line} {column : Nat}

/-! ## Identifier characters next to a cut -/

theorem IdentAt.lt_length {i : Nat} (h : IdentAt line i) : i < line.length := by
  obtain ⟨c, hc, -⟩ := h
  exact (List.getElem?_eq_some_iff.mp hc).1

theorem identAt_append_length (front back : List Char) :
    IdentAt (front ++ back) front.length ↔ ∃ c ∈ back.head?, isIdentChar c = true := by
  rw [IdentAt, List.getElem?_append_right (Nat.le_refl _), Nat.sub_self, List.head?_eq_getElem?]

theorem identAt_append_pred (front back : List Char) :
    0 < front.length ∧ IdentAt (front ++ back) (front.length - 1)
      ↔ ∃ c ∈ front.getLast?, isIdentChar c = true := by
  rw [List.getLast?_eq_getElem?]
  constructor
  · rintro ⟨hpos, c, hc, hident⟩
    rw [List.getElem?_append_left (by omega)] at hc
    exact ⟨c, hc, hident⟩
  · rintro ⟨c, hc, hident⟩
    have hlt := (List.getElem?_eq_some_iff.mp (Option.mem_def.mp hc)).1
    refine ⟨by omega, c, ?_, hident⟩
    rw [List.getElem?_append_left hlt]
    exact hc

/-! ## Runs -/

theorem IsRun.stop_le_length {span : Span} (h : IsRun line span) : span.stop ≤ line.length := by
  have hlt := h.start_lt_stop
  have hlast := (h.ident (span.stop - 1) (by omega) (by omega)).lt_length
  omega

/-- Two runs that touch one column are one run. -/
theorem IsRun.eq_of_touches {first second : Span} (hfirst : IsRun line first)
    (hsecond : IsRun line second) {i : Nat} (htouches : first.Touches i)
    (hother : second.Touches i) : first = second := by
  obtain ⟨hle, hge⟩ := htouches
  obtain ⟨hle', hge'⟩ := hother
  have hstart : first.start = second.start := by
    rcases Nat.lt_trichotomy first.start second.start with hlt | heq | hlt
    · have hident := hfirst.ident (second.start - 1) (by omega) (by omega)
      exact absurd hident (hsecond.left (by omega))
    · exact heq
    · have hident := hsecond.ident (first.start - 1) (by omega) (by omega)
      exact absurd hident (hfirst.left (by omega))
  have hstop : first.stop = second.stop := by
    rcases Nat.lt_trichotomy first.stop second.stop with hlt | heq | hlt
    · exact absurd (hsecond.ident first.stop (by omega) hlt) hfirst.right
    · exact heq
    · exact absurd (hfirst.ident second.stop (by omega) hlt) hsecond.right
  obtain ⟨start, stop⟩ := first
  obtain ⟨start', stop'⟩ := second
  rw [Span.mk.injEq]
  exact ⟨hstart, hstop⟩

/-- A word that cuts a line is a run of it. -/
theorem IsWord.isRun {before word rest : List Char} (h : IsWord before word rest)
    (hne : word ≠ []) :
    IsRun (before ++ word ++ rest) ⟨before.length, (before ++ word).length⟩ where
  start_lt_stop := by
    have hpos := List.length_pos_iff.mpr hne
    show before.length < (before ++ word).length
    rw [List.length_append]
    omega
  ident := by
    intro i (hstart : before.length ≤ i) (hstop : i < (before ++ word).length)
    rw [List.length_append] at hstop
    have hi : i - before.length < word.length := by omega
    refine ⟨word[i - before.length], ?_, h.ident _ (List.getElem_mem hi)⟩
    rw [List.append_assoc, List.getElem?_append_right hstart, List.getElem?_append_left hi,
      Option.mem_def, List.getElem?_eq_getElem hi]
  left := by
    intro hpos hident
    rw [List.append_assoc] at hident
    obtain ⟨c, hc, hident⟩ := (identAt_append_pred _ _).mp ⟨hpos, hident⟩
    rw [h.left c hc] at hident
    cases hident
  right := by
    intro hident
    obtain ⟨c, hc, hident⟩ := (identAt_append_length _ _).mp hident
    rw [h.right c hc] at hident
    cases hident

/-! ## Words -/

theorem isRun_of_wordAt? {word : Word} (h : wordAt? line column = some word) :
    IsRun line word.span ∧ word.span.Touches (min column line.length) := by
  obtain ⟨before, rest, hline, hword, hspan⟩ := wordAt?_eq_some_iff.mp h
  have hrun := hword.isRun hword.ne_nil
  rw [← hline, ← hspan] at hrun
  refine ⟨hrun, ?_⟩
  rw [hspan]
  exact ⟨hword.start_le, hword.le_stop⟩

/-- There is a word at a column exactly if an identifier character stands there or before it. -/
theorem isSome_wordAt?_iff : (wordAt? line column).isSome
    ↔ IdentAt line (min column line.length)
      ∨ 0 < min column line.length ∧ IdentAt line (min column line.length - 1) := by
  obtain ⟨before, tail, head, rest, hline, hword, hcolumn⟩ := exists_isWord line column
  have hcut : line = before ++ tail ++ (head ++ rest) := by
    rw [hline]
    simp only [List.append_assoc]
  have hright := identAt_append_length (before ++ tail) (head ++ rest)
  have hleft := identAt_append_pred (before ++ tail) (head ++ rest)
  rw [← hcut] at hright hleft
  rw [← hcolumn, hright, hleft]
  rw [hline] at hcolumn
  rw [hline, wordAt?_of_isWord hword hcolumn]
  constructor
  · intro h
    cases head with
    | cons c head =>
        refine .inl ⟨c, rfl, hword.ident c ?_⟩
        exact List.mem_append_right tail List.mem_cons_self
    | nil =>
        cases hlast : tail.getLast? with
        | none =>
            rw [List.getLast?_eq_none_iff.mp hlast] at h
            cases h
        | some c =>
            refine .inr ⟨c, ?_, hword.ident c ?_⟩
            · rw [List.getLast?_append, hlast]
              rfl
            · exact List.mem_append_left [] (List.mem_of_getLast? hlast)
  · intro h
    by_cases hempty : tail ++ head = []
    · -- Then the characters next to the column are those that the empty run stops at.
      obtain ⟨rfl, rfl⟩ := List.append_eq_nil_iff.mp hempty
      rcases h with ⟨c, hc, hident⟩ | ⟨c, hc, hident⟩
      · rw [hword.right c hc] at hident
        cases hident
      · rw [List.append_nil] at hc
        rw [hword.left c hc] at hident
        cases hident
    · rw [if_neg hempty]
      rfl

/-- The word at a column is the run that touches it. -/
theorem wordAt?_eq_some_iff_isRun {word : Word} : wordAt? line column = some word
    ↔ IsRun line word.span ∧ word.span.Touches (min column line.length)
      ∧ word.text = word.span.text line := by
  constructor
  · intro h
    obtain ⟨hrun, htouches⟩ := isRun_of_wordAt? h
    exact ⟨hrun, htouches, (span_text_of_wordAt? h).symm⟩
  · rintro ⟨hrun, ⟨hle, hge⟩, htext⟩
    have hsome : (wordAt? line column).isSome := by
      rw [isSome_wordAt?_iff]
      by_cases hstop : min column line.length < word.span.stop
      · exact .inl (hrun.ident _ hle hstop)
      · have hlt := hrun.start_lt_stop
        exact .inr ⟨by omega, hrun.ident _ (by omega) (by omega)⟩
    obtain ⟨found, hfound⟩ := Option.isSome_iff_exists.mp hsome
    obtain ⟨hfoundRun, hfoundTouches⟩ := isRun_of_wordAt? hfound
    have hspan := hfoundRun.eq_of_touches hrun hfoundTouches ⟨hle, hge⟩
    have hsame := span_text_of_wordAt? hfound
    rw [hspan, ← htext] at hsame
    obtain ⟨text, span⟩ := word
    obtain ⟨text', span'⟩ := found
    dsimp only at hspan hsame
    rw [hfound, hspan, hsame]

/-- All columns that a word touches have that word. -/
theorem wordAt?_of_touches {word : Word} (h : wordAt? line column = some word) {other : Nat}
    (htouches : word.span.Touches other) : wordAt? line other = some word := by
  obtain ⟨hrun, -, htext⟩ := wordAt?_eq_some_iff_isRun.mp h
  have hmin : min other line.length = other :=
    Nat.min_eq_left (Nat.le_trans htouches.2 hrun.stop_le_length)
  refine wordAt?_eq_some_iff_isRun.mpr ⟨hrun, ?_, htext⟩
  rw [hmin]
  exact htouches

/-- Two words of a line are one, or some character between them is none of an identifier. -/
theorem eq_or_separated_of_wordAt? {other : Nat} {first second : Word}
    (hfirst : wordAt? line column = some first) (hsecond : wordAt? line other = some second) :
    first = second ∨ ∃ i, i < line.length ∧ ¬IdentAt line i
      ∧ (first.span.stop ≤ i ∧ i < second.span.start
        ∨ second.span.stop ≤ i ∧ i < first.span.start) := by
  obtain ⟨hfirstRun, -, -⟩ := wordAt?_eq_some_iff_isRun.mp hfirst
  obtain ⟨hsecondRun, -, -⟩ := wordAt?_eq_some_iff_isRun.mp hsecond
  have hfirstStop := hfirstRun.stop_le_length
  have hsecondStop := hsecondRun.stop_le_length
  have hfirstLt := hfirstRun.start_lt_stop
  have hsecondLt := hsecondRun.start_lt_stop
  by_cases hbefore : first.span.stop < second.span.start
  · exact .inr ⟨first.span.stop, by omega, hfirstRun.right, .inl ⟨Nat.le_refl _, hbefore⟩⟩
  by_cases hafter : second.span.stop < first.span.start
  · exact .inr ⟨second.span.stop, by omega, hsecondRun.right, .inr ⟨Nat.le_refl _, hafter⟩⟩
  -- Both touch the column at which the later one starts.
  have hfirstTouches : first.span.Touches (max first.span.start second.span.start) :=
    ⟨by omega, by omega⟩
  have hsecondTouches : second.span.Touches (max first.span.start second.span.start) :=
    ⟨by omega, by omega⟩
  have hsame := wordAt?_of_touches hfirst hfirstTouches
  rw [wordAt?_of_touches hsecond hsecondTouches] at hsame
  exact .inl (Option.some.inj hsame).symm

/-- Every identifier character is in one word. -/
theorem existsUnique_word_of_identAt {i : Nat} (h : IdentAt line i) :
    ∃! word : Word, (∃ column, wordAt? line column = some word)
      ∧ word.span.start ≤ i ∧ i < word.span.stop := by
  have hi : min i line.length = i := Nat.min_eq_left (Nat.le_of_lt h.lt_length)
  have hsome : (wordAt? line i).isSome := by
    rw [isSome_wordAt?_iff, hi]
    exact .inl h
  obtain ⟨word, hword⟩ := Option.isSome_iff_exists.mp hsome
  obtain ⟨hrun, htouches, -⟩ := wordAt?_eq_some_iff_isRun.mp hword
  rw [hi] at htouches
  refine ⟨word, ⟨⟨i, hword⟩, htouches.1, ?_⟩, ?_⟩
  · -- A run does not end at an identifier character.
    rcases Nat.lt_or_eq_of_le htouches.2 with hlt | heq
    · exact hlt
    · exact absurd (heq ▸ h) hrun.right
  · rintro other ⟨⟨column, hother⟩, hstart, hstop⟩
    have hsame := wordAt?_of_touches hother ⟨hstart, Nat.le_of_lt hstop⟩
    exact Option.some.inj (hsame.symm.trans hword)

/-- A line is cut into its identifiers. There is a word at a column exactly if an identifier character
stands there or before it; then the word is a longest run, the column is in it or at its end, and all
columns of which this is true have the same word. The words at two columns are one, or some character
between them is none of an identifier, and every identifier character is in one word. A column past the
end of the line is the end. -/
theorem wordAt?_cuts_line (line : Line) (column : Nat) :
    let cursor := min column line.length
    ((wordAt? line column).isSome
      ↔ IdentAt line cursor ∨ 0 < cursor ∧ IdentAt line (cursor - 1))
    ∧ (∀ word, wordAt? line column = some word →
        word.span.start ≤ cursor ∧ cursor ≤ word.span.stop
        ∧ IsRun line word.span ∧ word.text = word.span.text line
        ∧ ∀ other, word.span.start ≤ other → other ≤ word.span.stop →
            wordAt? line other = some word)
    ∧ (∀ other first second, wordAt? line column = some first → wordAt? line other = some second →
        first = second ∨ ∃ i, i < line.length ∧ ¬IdentAt line i
          ∧ (first.span.stop ≤ i ∧ i < second.span.start
            ∨ second.span.stop ≤ i ∧ i < first.span.start))
    ∧ ∀ i, IdentAt line i →
        ∃! word : Word, (∃ other, wordAt? line other = some word)
          ∧ word.span.start ≤ i ∧ i < word.span.stop := by
  intro cursor
  refine ⟨isSome_wordAt?_iff, ?_, ?_, ?_⟩
  · intro word hword
    obtain ⟨hrun, htouches, htext⟩ := wordAt?_eq_some_iff_isRun.mp hword
    refine ⟨htouches.1, htouches.2, hrun, htext, ?_⟩
    intro other hstart hstop
    exact wordAt?_of_touches hword ⟨hstart, hstop⟩
  · intro other first second hfirst hsecond
    exact eq_or_separated_of_wordAt? hfirst hsecond
  · intro i hident
    exact existsUnique_word_of_identAt hident

/-- A dot parts two words, and a column on either side of it touches the nearer one. -/
example : wordAt? ['a', 'b', '.', 'c'] 2 = some ⟨['a', 'b'], ⟨0, 2⟩⟩
    ∧ wordAt? ['a', 'b', '.', 'c'] 3 = some ⟨['c'], ⟨3, 4⟩⟩
    ∧ wordAt? ['a', '.', '.', 'c'] 2 = none := by
  decide +kernel

end GoAssist
