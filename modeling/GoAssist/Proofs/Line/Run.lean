import GoAssist.Line.Context
import GoAssist.Line.Word

/-!
# Longest runs of identifier characters

The scans of a line, described without scanning: a text is cut into parts, and a part is a longest
run if it holds identifier characters only and none stands next to it. `IsTail` looks to the left
only, as the text before a cursor is cut; `IsWord` looks both ways, as a whole line is cut.

Every line can be cut at every column (`exists_isTail_at`, `exists_isWord`), and a cut decides what
the scans find: `typedSpan_of_isTail` for the part of an identifier before the cursor,
`wordAt?_of_isWord` for the whole identifier at it, and `analyze_after_dot` for the name before a
dot. So a proof about an edited line names the parts of the line and never opens a scan.
-/

namespace GoAssist

/-! ## Runs that end a text -/

/-- `tail` is the longest run of identifier characters that ends `before ++ tail`. -/
structure IsTail (before tail : List Char) : Prop where
  /-- The run holds identifier characters only. -/
  ident : ∀ c ∈ tail, isIdentChar c = true
  /-- The character before it, if there is one, is none. -/
  left : ∀ c ∈ before.getLast?, isIdentChar c = false

theorem IsTail.identSuffix_append {before tail : List Char} (h : IsTail before tail) :
    identSuffix (before ++ tail) = tail := by
  have hstop : before.reverse.takeWhile isIdentChar = [] := by
    cases hrev : before.reverse with
    | nil => rfl
    | cons c rest =>
        have hlast : before.getLast? = some c := by rw [← List.head?_reverse, hrev, List.head?_cons]
        rw [List.takeWhile_cons, if_neg (by simp [h.left c hlast])]
  rw [identSuffix, List.reverse_append,
    List.takeWhile_append_of_pos fun c hc => h.ident c (List.mem_reverse.mp hc), hstop,
    List.append_nil, List.reverse_reverse]

/-- Every text is cut by the run that ends it. -/
theorem exists_isTail (text : List Char) :
    ∃ before, text = before ++ identSuffix text ∧ IsTail before (identSuffix text) :=
  ⟨(text.reverse.dropWhile isIdentChar).reverse, (take_append_identSuffix text).symm,
    fun _ hc => isIdentChar_of_mem_identSuffix hc, fun _ hc => not_isIdentChar_of_getLast? hc⟩

/-- A line is cut at every column by the part of an identifier before it. -/
theorem exists_isTail_at (line : Line) (column : Nat) :
    ∃ before typed rest, line = before ++ typed ++ rest ∧ IsTail before typed
      ∧ (before ++ typed).length = min column line.length := by
  obtain ⟨before, hbefore, htail⟩ := exists_isTail (line.take column)
  refine ⟨before, identSuffix (line.take column), line.drop column, ?_, htail, ?_⟩
  · rw [← hbefore, List.take_append_drop]
  · rw [← hbefore, List.length_take]

/-- A part of the run up to some character ends the text up to that character. -/
theorem IsTail.of_append {before tail rest : List Char} (h : IsTail before (tail ++ rest)) :
    IsTail before tail :=
  ⟨fun c hc => h.ident c (List.mem_append_left rest hc), h.left⟩

theorem IsTail.identStart_append {before tail : List Char} (h : IsTail before tail)
    (rest : List Char) :
    identStart (before ++ tail ++ rest) (before ++ tail).length = before.length := by
  rw [identStart, List.take_left, h.identSuffix_append, List.length_append, Nat.add_sub_cancel]

/-- What stands before the cursor is replaced from the start of its last run on. -/
theorem typedSpan_of_isTail {before tail : List Char} (h : IsTail before tail)
    (rest : List Char) :
    typedSpan (before ++ tail ++ rest) (before ++ tail).length
      = ⟨before.length, (before ++ tail).length⟩ := by
  have hstart := h.identStart_append []
  rw [List.append_nil] at hstart
  simp only [typedSpan, List.take_left, hstart]

/-- A column past the end of the line counts as its end. -/
theorem typedSpan_min_length (line : Line) (column : Nat) :
    typedSpan line (min column line.length) = typedSpan line column := by
  have htake : line.take (min column line.length) = line.take column :=
    List.take_eq_take_iff.mpr (by simp)
  simp only [typedSpan, htake]

/-! ## Member positions -/

/-- A name that can stand before a dot: identifier characters, the first of them no number. -/
structure IsIdentifier (name : List Char) : Prop where
  ne_nil : name ≠ []
  ident : ∀ c ∈ name, isIdentChar c = true
  start : ∀ c ∈ name.head?, Unicode.isNumeric c = false

/-- A name and a dot make a member position, if the name is a longest run. -/
theorem packageBeforeDot?_of_isTail {before name : List Char} (h : IsTail before name)
    (hname : IsIdentifier name) : packageBeforeDot? (before ++ name ++ ['.']) = some name := by
  obtain ⟨c, rest, rfl⟩ := List.exists_cons_of_ne_nil hname.ne_nil
  have hstart : isIdentStart c = true := by
    simp [isIdentStart, hname.ident c List.mem_cons_self, hname.start c rfl]
  rw [packageBeforeDot?, List.getLast?_concat, List.dropLast_concat]
  simp only [h.identSuffix_append, hstart, if_true]

/-- After a name and a dot the members of the name are asked for, and nothing is replaced. -/
theorem analyze_after_dot {before name : List Char} (h : IsTail before name)
    (hname : IsIdentifier name) (rest : List Char) :
    analyze (before ++ name ++ ['.'] ++ rest) (before ++ name ++ ['.']).length
      = ⟨.member (String.ofList name),
          ⟨(before ++ name ++ ['.']).length, (before ++ name ++ ['.']).length⟩⟩ := by
  have hdot : IsTail (before ++ name ++ ['.']) [] := by
    refine ⟨fun c hc => absurd hc List.not_mem_nil, fun c hc => ?_⟩
    rw [List.getLast?_concat] at hc
    rw [← Option.some.inj hc, not_isIdentChar_dot]
  have hspan := typedSpan_of_isTail hdot rest
  rw [List.append_nil] at hspan
  have hmode : packageBeforeDot? ((before ++ name ++ ['.'] ++ rest).take
      (before ++ name ++ ['.']).length) = some name := by
    rw [List.take_left, packageBeforeDot?_of_isTail h hname]
  have hanalyze : (analyze (before ++ name ++ ['.'] ++ rest)
      (before ++ name ++ ['.']).length).mode = .member (String.ofList name) := by
    simp only [analyze, hmode]
  rw [← hspan, ← hanalyze]
  rfl

/-! ## Words of a line -/

/-- `word` is a longest run of identifier characters in `before ++ word ++ rest`. -/
structure IsWord (before word rest : List Char) : Prop extends IsTail before word where
  /-- The character after it, if there is one, is no identifier character. -/
  right : ∀ c ∈ rest.head?, isIdentChar c = false

theorem identHead_append {word rest : List Char} (hword : ∀ c ∈ word, isIdentChar c = true)
    (hrest : ∀ c ∈ rest.head?, isIdentChar c = false) : identHead (word ++ rest) = word := by
  have hstop : rest.takeWhile isIdentChar = [] := by
    cases rest with
    | nil => rfl
    | cons c rest => rw [List.takeWhile_cons, if_neg (by simp [hrest c rfl])]
  rw [identHead, List.takeWhile_append_of_pos hword, hstop, List.append_nil]

/-- Every line is cut at every column by the run there, which may be empty. -/
theorem exists_isWord (line : Line) (column : Nat) :
    ∃ before tail head rest, line = before ++ (tail ++ head) ++ rest
      ∧ IsWord before (tail ++ head) rest
      ∧ (before ++ tail).length = min column line.length := by
  obtain ⟨before, hbefore, htail⟩ := exists_isTail (line.take column)
  have hsplit : identHead (line.drop column) ++ (line.drop column).dropWhile isIdentChar
      = line.drop column := List.takeWhile_append_dropWhile
  refine ⟨before, identSuffix (line.take column), identHead (line.drop column),
    (line.drop column).dropWhile isIdentChar, ?_, ⟨⟨?_, htail.left⟩, ?_⟩, ?_⟩
  · rw [← List.append_assoc before, ← hbefore, List.append_assoc, hsplit, List.take_append_drop]
  · intro c hc
    rcases List.mem_append.mp hc with hc | hc
    · exact htail.ident c hc
    · exact List.all_eq_true.mp List.all_takeWhile c hc
  · intro c hc
    have hstop := List.head?_dropWhile_not isIdentChar (line.drop column)
    rw [Option.mem_def.mp hc] at hstop
    simpa using hstop
  · rw [← hbefore, List.length_take]

theorem Span.text_append (before word rest : List Char) :
    Span.text ⟨before.length, (before ++ word).length⟩ (before ++ word ++ rest) = word := by
  rw [Span.text, List.append_assoc, List.drop_left]
  simp [Span.length]

/-- The word at a column is the run that holds the character there or ends there. -/
theorem wordAt?_of_isWord {before tail head rest : List Char}
    (h : IsWord before (tail ++ head) rest) {column : Nat}
    (hcolumn : (before ++ tail).length = min column (before ++ (tail ++ head) ++ rest).length) :
    wordAt? (before ++ (tail ++ head) ++ rest) column
      = if tail ++ head = [] then none
        else some ⟨tail ++ head, ⟨before.length, (before ++ (tail ++ head)).length⟩⟩ := by
  have hline : before ++ (tail ++ head) ++ rest = before ++ tail ++ (head ++ rest) := by simp
  have hstart : identStart (before ++ (tail ++ head) ++ rest) (before ++ tail).length
      = before.length := by
    rw [hline]
    exact h.toIsTail.of_append.identStart_append _
  have hhead : identHead ((before ++ (tail ++ head) ++ rest).drop (before ++ tail).length)
      = head := by
    rw [hline, List.drop_left]
    exact identHead_append (fun c hc => h.ident c (List.mem_append_right tail hc)) h.right
  have hstop : (before ++ tail).length + head.length = (before ++ (tail ++ head)).length := by
    simp [Nat.add_assoc]
  simp only [wordAt?, ← hcolumn, hstart, hhead, hstop]
  by_cases hempty : tail ++ head = []
  · rw [if_pos hempty, if_neg (by simp [hempty])]
  · have hpos := List.length_pos_iff.mpr hempty
    rw [if_neg hempty, if_pos (by rw [List.length_append]; omega), Span.text_append]

/-- `word` is the identifier of `before ++ word ++ rest` that a column touches: it holds the
character there or ends there. -/
structure IsWordAt (before word rest : List Char) (column : Nat) : Prop
    extends IsWord before word rest where
  ne_nil : word ≠ []
  start_le : before.length ≤ column
  le_stop : column ≤ (before ++ word).length

/-- A word is found exactly at the columns that it touches. -/
theorem wordAt?_eq_some_iff {line : Line} {column : Nat} {word : Word} :
    wordAt? line column = some word ↔
      ∃ before rest, line = before ++ word.text ++ rest
        ∧ IsWordAt before word.text rest (min column line.length)
        ∧ word.span = ⟨before.length, (before ++ word.text).length⟩ := by
  constructor
  · intro hword
    obtain ⟨before, tail, head, rest, rfl, hcut, hcolumn⟩ := exists_isWord line column
    rw [wordAt?_of_isWord hcut hcolumn] at hword
    split at hword
    · cases hword
    · rename_i hne
      obtain rfl := Option.some.inj hword
      refine ⟨before, rest, rfl, ⟨hcut, hne, ?_, ?_⟩, rfl⟩
      · rw [← hcolumn]
        simp
      · rw [← hcolumn]
        simp
  · obtain ⟨text, span⟩ := word
    rintro ⟨before, rest, hline, ⟨hcut, hne, hle, hge⟩, hspan⟩
    dsimp only at *
    subst hline hspan
    -- The cursor cuts the word in two.
    obtain ⟨tail, head, rfl, htail⟩ : ∃ tail head, text = tail ++ head
        ∧ (before ++ tail).length = min column (before ++ text ++ rest).length := by
      refine ⟨text.take (min column (before ++ text ++ rest).length - before.length),
        text.drop (min column (before ++ text ++ rest).length - before.length),
        (List.take_append_drop _ _).symm, ?_⟩
      simp only [List.length_append, List.length_take] at hle hge ⊢
      omega
    rw [wordAt?_of_isWord hcut htail, if_neg hne]

/-! ## Edits -/

/-- The line with other text in place of a span. -/
def Span.replace (span : Span) (line : Line) (text : List Char) : Line :=
  line.take span.start ++ text ++ line.drop span.stop

theorem Span.replace_of_cut (before part rest text : List Char) :
    Span.replace ⟨before.length, (before ++ part).length⟩ (before ++ part ++ rest) text
      = before ++ text ++ rest := by
  rw [Span.replace, List.drop_left, List.append_assoc before, List.take_left]

/-- What replaces the part of an identifier before the cursor begins a new run: no identifier
character stands before it. -/
theorem exists_replace_typedSpan (line : Line) (column : Nat) :
    ∃ before rest : List Char, (∀ c ∈ before.getLast?, isIdentChar c = false)
      ∧ (typedSpan line column).start = before.length
      ∧ ∀ text, (typedSpan line column).replace line text = before ++ text ++ rest := by
  obtain ⟨before, typed, rest, rfl, htail, hlength⟩ := exists_isTail_at line column
  rw [← typedSpan_min_length, ← hlength, typedSpan_of_isTail htail]
  exact ⟨before, rest, htail.left, rfl, Span.replace_of_cut before typed rest⟩

end GoAssist
