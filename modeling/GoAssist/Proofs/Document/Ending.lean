import GoAssist.Proofs.Document.Line

/-!
# Lines and what ends them

A document gives back the lines that a text was written from, whether a line feed ends a line or a
carriage return and a line feed, each line its own way (`textLines_writtenText`). The lines written so
hold no line feed and end in no carriage return: a carriage return at the end of a line cannot be told
from one of its ending.

Of a text that was not written so, the lines give back all but the carriage returns of its line
endings. `withoutReturns` drops these by looking at one character after each, without cutting the text
into lines, and `intercalate_textLines` says that the lines, joined by line feeds, are what it leaves.
-/

namespace GoAssist

/-- What ends a line of a text. -/
inductive LineEnding where
  | lineFeed
  | returnAndLineFeed
  deriving DecidableEq, Repr

/-- The characters of a line ending. -/
def LineEnding.chars : LineEnding → List Char
  | .lineFeed => ['\n']
  | .returnAndLineFeed => ['\r', '\n']

/-- Lines one after another, each with what ends it, and a last line that nothing ends. -/
def writtenText (ended : List (Line × LineEnding)) (last : Line) : List Char :=
  ended.flatMap (fun line => line.1 ++ line.2.chars) ++ last

/-- A line that can be told from its ending. -/
structure IsBareLine (line : Line) : Prop where
  not_mem_lineFeed : '\n' ∉ line
  getLast?_ne_return : line.getLast? ≠ some '\r'

instance (line : Line) : Decidable (IsBareLine line) :=
  decidable_of_iff ('\n' ∉ line ∧ line.getLast? ≠ some '\r')
    ⟨fun h => ⟨h.1, h.2⟩, fun h => ⟨h.1, h.2⟩⟩

/-! ## Carriage returns at the end of a line -/

theorem IsBareLine.dropCarriageReturn_eq {line : Line} (h : IsBareLine line) :
    dropCarriageReturn line = line :=
  if_neg h.getLast?_ne_return

theorem dropCarriageReturn_concat (line : Line) : dropCarriageReturn (line ++ ['\r']) = line := by
  rw [dropCarriageReturn, List.getLast?_concat, if_pos rfl, List.dropLast_concat]

theorem dropCarriageReturn_cons_cons (c d : Char) (line : Line) :
    dropCarriageReturn (c :: d :: line) = c :: dropCarriageReturn (d :: line) := by
  rw [dropCarriageReturn, dropCarriageReturn, List.getLast?_cons_cons]
  split <;> rfl

theorem sublist_dropCarriageReturn (line : Line) : (dropCarriageReturn line).Sublist line := by
  rw [dropCarriageReturn]
  split
  · exact List.dropLast_sublist line
  · exact List.Sublist.refl line

/-! ## Written lines -/

/-- A plain line and its ending are one line, before whatever follows. -/
theorem textLines_ended_append {line : Line} (h : IsBareLine line) (ending : LineEnding)
    (rest : List Char) : textLines (line ++ ending.chars ++ rest) = line :: textLines rest := by
  cases ending with
  | lineFeed =>
      rw [LineEnding.chars, List.append_assoc, List.singleton_append, textLines_append_separator,
        textLines_of_not_mem h.not_mem_lineFeed, h.dropCarriageReturn_eq, List.singleton_append]
  | returnAndLineFeed =>
      have hreturn : '\n' ∉ line ++ ['\r'] := by
        simp [h.not_mem_lineFeed]
      have hsplit : line ++ ['\r', '\n'] ++ rest = (line ++ ['\r']) ++ '\n' :: rest := by simp
      rw [LineEnding.chars, hsplit, textLines_append_separator, textLines_of_not_mem hreturn,
        dropCarriageReturn_concat, List.singleton_append]

theorem textLines_writtenText {ended : List (Line × LineEnding)} {last : Line}
    (h : ∀ line ∈ ended.map Prod.fst ++ [last], IsBareLine line) :
    textLines (writtenText ended last) = ended.map Prod.fst ++ [last] := by
  induction ended with
  | nil =>
      have hlast : IsBareLine last := h last List.mem_cons_self
      rw [writtenText, List.flatMap_nil, List.nil_append, textLines_of_not_mem hlast.not_mem_lineFeed,
        hlast.dropCarriageReturn_eq]
      rfl
  | cons first rest ih =>
      have hfirst : IsBareLine first.1 := h first.1 List.mem_cons_self
      have hrest := ih fun line hline => h line (List.mem_cons_of_mem first.1 hline)
      rw [writtenText] at hrest
      rw [writtenText, List.flatMap_cons, List.append_assoc, textLines_ended_append hfirst, hrest]
      rfl

/-! ## Joining the lines of any text -/

/-- Whether a line ends where a text begins: at its end or at a line feed. -/
def endsLine : List Char → Bool
  | [] => true
  | c :: _ => c == '\n'

/-- The text without each carriage return that a line feed or the end of the text follows. -/
def withoutReturns : List Char → List Char
  | [] => []
  | c :: rest =>
    if c = '\r' ∧ endsLine rest = true then withoutReturns rest else c :: withoutReturns rest

/-- Up to its end a line loses its last carriage return and no other. -/
theorem withoutReturns_append {rest : List Char} (hends : endsLine rest = true) :
    ∀ {line : Line}, '\n' ∉ line →
      withoutReturns (line ++ rest) = dropCarriageReturn line ++ withoutReturns rest
  | [], _ => rfl
  | [c], _ => by
      rw [List.singleton_append, withoutReturns, dropCarriageReturn, List.getLast?_singleton]
      by_cases hc : c = '\r'
      · rw [if_pos ⟨hc, hends⟩, if_pos (congrArg some hc)]
        rfl
      · rw [if_neg fun hboth => hc hboth.1, if_neg fun heq => hc (Option.some.inj heq)]
        rfl
  | c :: d :: line, h => by
      obtain ⟨-, hline⟩ := not_or.mp (mt List.mem_cons.mpr h)
      have hne : d ≠ '\n' := fun heq => hline (heq ▸ List.mem_cons_self)
      have hinside : ¬(c = '\r' ∧ endsLine (d :: line ++ rest) = true) := fun hboth =>
        hne (eq_of_beq hboth.2)
      rw [List.cons_append, withoutReturns, if_neg hinside, withoutReturns_append hends hline,
        dropCarriageReturn_cons_cons, List.cons_append]

theorem withoutReturns_intercalate {parts : List Line} (h : ∀ part ∈ parts, '\n' ∉ part) :
    withoutReturns (['\n'].intercalate parts)
      = ['\n'].intercalate (parts.map dropCarriageReturn) := by
  induction parts with
  | nil => rfl
  | cons first rest ih =>
      have hfirst := h first List.mem_cons_self
      have hrest := ih fun part hpart => h part (List.mem_cons_of_mem first hpart)
      cases rest with
      | nil =>
          have hlast : withoutReturns (first ++ []) = dropCarriageReturn first ++ [] :=
            withoutReturns_append rfl hfirst
          rw [List.append_nil, List.append_nil] at hlast
          rw [List.map_singleton, List.intercalate_singleton, List.intercalate_singleton, hlast]
      | cons second rest =>
          rw [List.map_cons, List.intercalate_cons_cons, List.map_cons, List.intercalate_cons_cons,
            ← List.map_cons, ← hrest, List.append_assoc, List.append_assoc, List.singleton_append,
            List.singleton_append, withoutReturns_append (by rfl) hfirst]
          rfl

/-- The lines of a text, joined by line feeds, are the text without the carriage returns of its line
endings. -/
theorem intercalate_textLines (text : List Char) :
    ['\n'].intercalate (textLines text) = withoutReturns text := by
  have hparts : withoutReturns (['\n'].intercalate (pieces '\n' text))
      = ['\n'].intercalate (textLines text) :=
    withoutReturns_intercalate fun _ hpart => not_mem_of_mem_pieces hpart
  rw [← hparts, intercalate_pieces]

theorem not_mem_lineFeed_of_mem_textLines {text line : List Char} (h : line ∈ textLines text) :
    '\n' ∉ line := by
  obtain ⟨part, hpart, rfl⟩ := List.mem_map.mp h
  exact fun hmem => not_mem_of_mem_pieces hpart ((sublist_dropCarriageReturn part).mem hmem)

namespace Document

theorem isSome_line?_ofText_iff (text : List Char) (number : Nat) :
    ((ofText (String.ofList text)).line? number).isSome ↔ number ≤ text.count '\n' := by
  rw [line?_ofText, isSome_getElem?, length_textLines, Nat.lt_succ_iff]

/-- A document recovers its lines. From lines that hold no line feed and end in no carriage return,
written with either ending after each but the last, it gives back those lines and no other. Of any text
it has one line for each line feed and one more, none of them with a line feed, and joined by line feeds
they are the text without the carriage return before each line feed and before the end. After any
replacements of its text it is a fresh document of the last one. -/
theorem ofText_recovers_lines :
    (∀ (ended : List (Line × LineEnding)) (last : Line),
      (∀ line ∈ ended.map Prod.fst ++ [last], IsBareLine line) →
      ∀ number, (ofText (String.ofList (writtenText ended last))).line? number
        = (ended.map Prod.fst ++ [last])[number]?)
    ∧ (∀ text : List Char,
      let document := ofText (String.ofList text)
      (∀ number, (document.line? number).isSome ↔ number ≤ text.count '\n')
      ∧ (∀ number, ∀ line ∈ document.line? number, '\n' ∉ line)
      ∧ ∃ lines : List Line, (∀ number, document.line? number = lines[number]?)
        ∧ ['\n'].intercalate lines = withoutReturns text)
    ∧ ∀ (text : String) (texts : List String),
      let document := texts.foldl update (ofText text)
      document.text = texts.getLastD text
        ∧ ∀ number, document.line? number = (ofText (texts.getLastD text)).line? number := by
  refine ⟨fun ended last hplain number => ?_, fun text => ⟨?_, ?_, ?_⟩, fun text texts => ?_⟩
  · rw [line?_ofText, textLines_writtenText hplain]
  · exact isSome_line?_ofText_iff text
  · intro number line hline
    rw [line?_ofText] at hline
    exact not_mem_lineFeed_of_mem_textLines (List.mem_of_getElem? hline)
  · exact ⟨textLines text, line?_ofText text, intercalate_textLines text⟩
  · intro document
    have hlast : document = ofText (texts.getLastD text) := foldl_update_ofText texts text
    rw [hlast]
    exact ⟨rfl, fun number => rfl⟩

/-- Both endings, an empty line, and a carriage return inside a line. -/
theorem ofText_recovers_lines_mixed :
    let ended : List (Line × LineEnding) :=
      [(['a'], .returnAndLineFeed), ([], .lineFeed), (['b', '\r', 'c'], .returnAndLineFeed)]
    writtenText ended [] = "a\r\n\nb\rc\r\n".toList
    ∧ (∀ line ∈ ended.map Prod.fst ++ [[]], IsBareLine line)
    ∧ (ofText (String.ofList (writtenText ended []))).line? 2 = some ['b', '\r', 'c']
    ∧ (ofText (String.ofList (writtenText ended []))).line? 4 = none := by
  intro ended
  have hplain : ∀ line ∈ ended.map Prod.fst ++ [[]], IsBareLine line := by decide
  have hlines := ofText_recovers_lines.1 ended [] hplain
  exact ⟨by decide, hplain, hlines 2, hlines 4⟩

/-- Of two carriage returns before a line feed the first belongs to the line. -/
example : textLines "a\r\r\n\r".toList = ["a\r".toList, []] := by decide

end Document

end GoAssist
