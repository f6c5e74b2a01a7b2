import GoAssist.Server.Answer

/-!
# Answers from one line

What an editor is told about a place is decided by the text of the line alone. Cutting a text at a
line feed cuts its lines there (`textLines_append_separator`), so a line stands in a text under the
number of line feeds before it, whatever surrounds it (`line?_ofText_surround`). An answer reads
nothing of a document but the line (`items_eq_of_getD_line?_eq`, `hover?_eq_of_line?_eq`); the line's
number only says where the ranges lie.
-/

namespace GoAssist

/-! ## Lines in a text -/

/-- A separator cuts a text in two, and each part is cut on its own. -/
theorem pieces_append_separator (separator : Char) (rest : List Char) : ∀ text : List Char,
    pieces separator (text ++ separator :: rest) = pieces separator text ++ pieces separator rest
  | [] => pieces_cons_self separator rest
  | c :: text => by
      have ih := pieces_append_separator separator rest text
      obtain ⟨first, others, htext⟩ := List.exists_cons_of_ne_nil (pieces_ne_nil separator text)
      rw [htext] at ih
      by_cases hc : c = separator
      · subst hc
        rw [List.cons_append, pieces_cons_self, pieces_cons_self, ih, htext]
        rfl
      · rw [List.cons_append, pieces_cons_of_ne hc ih, pieces_cons_of_ne hc htext]
        rfl

theorem textLines_append_separator (text rest : List Char) :
    textLines (text ++ '\n' :: rest) = textLines text ++ textLines rest := by
  rw [textLines, pieces_append_separator, List.map_append]
  rfl

theorem textLines_of_not_mem {line : List Char} (h : '\n' ∉ line) :
    textLines line = [dropCarriageReturn line] := by
  rw [textLines, pieces_of_not_mem h, List.map_singleton]

/-- What stands before a line of a text: nothing, or a text and the line feed that ends it. -/
def textBefore (before : Option (List Char)) : List Char :=
  before.elim [] (· ++ ['\n'])

/-- What stands after a line of a text: nothing, or a line feed and a text. -/
def textAfter (after : Option (List Char)) : List Char :=
  after.elim [] ('\n' :: ·)

/-- The line feeds before a line number the lines before it. -/
theorem textLines_textBefore_append (before : Option (List Char)) (rest : List Char) :
    ∃ above, textLines (textBefore before ++ rest) = above ++ textLines rest
      ∧ above.length = (textBefore before).count '\n' := by
  cases before with
  | none => exact ⟨[], rfl, rfl⟩
  | some before =>
      refine ⟨textLines before, ?_, ?_⟩
      · rw [textBefore, Option.elim, List.append_assoc, List.singleton_append,
          textLines_append_separator]
      · rw [length_textLines, textBefore, Option.elim, List.count_append,
          List.count_singleton_self]

theorem head?_textLines_append_textAfter {line : List Char} (h : '\n' ∉ line)
    (after : Option (List Char)) :
    (textLines (line ++ textAfter after)).head? = some (dropCarriageReturn line) := by
  cases after with
  | none => rw [textAfter, Option.elim, List.append_nil, textLines_of_not_mem h, List.head?_cons]
  | some after =>
      rw [textAfter, Option.elim, textLines_append_separator, textLines_of_not_mem h,
        List.singleton_append, List.head?_cons]

namespace Document

theorem line?_ofText (text : List Char) (number : Nat) :
    (ofText (String.ofList text)).line? number = (textLines text)[number]? := by
  rw [line?, ofText, String.toList_ofList, List.getElem?_toArray]

/-- A line has the number of line feeds before it, whatever surrounds it. -/
theorem line?_ofText_surround {line : List Char} (h : '\n' ∉ line)
    (before after : Option (List Char)) :
    (ofText (String.ofList (textBefore before ++ line ++ textAfter after))).line?
        ((textBefore before).count '\n')
      = (ofText (String.ofList line)).line? 0 := by
  obtain ⟨above, hlines, hlength⟩ := textLines_textBefore_append before (line ++ textAfter after)
  rw [line?_ofText, line?_ofText, List.append_assoc, hlines, ← hlength,
    List.getElem?_append_right (Nat.le_refl _), Nat.sub_self, ← List.head?_eq_getElem?,
    head?_textLines_append_textAfter h, textLines_of_not_mem h]
  rfl

/-- A text has no line of a number greater than that of its line feeds. -/
theorem line?_ofText_eq_none {text : List Char} {number : Nat} (h : text.count '\n' < number) :
    (ofText (String.ofList text)).line? number = none := by
  rw [line?_ofText, List.getElem?_eq_none]
  rw [length_textLines]
  exact h

end Document

/-! ## Answers under another line number -/

/-- The range of the same columns on another line. -/
def TextRange.onLine (number : UInt32) (range : TextRange) : TextRange :=
  ⟨⟨number, range.start.character⟩, ⟨number, range.stop.character⟩⟩

/-- The item for the same columns of another line. -/
def Item.onLine (number : UInt32) (item : Item) : Item :=
  { item with range := item.range.onLine number }

/-- The explanation of the same columns of another line. -/
def HoverAnswer.onLine (number : UInt32) (answer : HoverAnswer) : HoverAnswer :=
  { answer with range := answer.range.onLine number }

namespace Document

variable {registry : Registry} {first second : Document} {number other character target : UInt32}

/-- Completion reads the line only, with no line as an empty one, and only its column in it. -/
theorem items_eq_of_getD_line?_eq
    (hline : (first.line? number.toNat).getD [] = (second.line? other.toNat).getD [])
    (hcolumn : charColumn ((second.line? other.toNat).getD []) character
      = charColumn ((second.line? other.toNat).getD []) target) :
    first.items registry ⟨number, character⟩
      = (second.items registry ⟨other, target⟩).map (Item.onLine number) := by
  simp only [items, hline, hcolumn, List.map_map]
  rfl

/-- An explanation reads the line only. -/
theorem hover?_eq_of_line?_eq (hline : first.line? number.toNat = second.line? other.toNat) :
    first.hover? registry ⟨number, character⟩
      = (second.hover? registry ⟨other, character⟩).map (HoverAnswer.onLine number) := by
  simp only [hover?, hline, Option.bind_eq_bind, Option.pure_def, Option.map_bind,
    Function.comp_def, Option.map_some]
  rfl

/-- What surrounds a line says under which number it is answered, and nothing else. -/
theorem answers_of_surround (registry : Registry) {line : List Char} (hline : '\n' ∉ line)
    (before after : Option (List Char)) (character : UInt32)
    (hnumber : number.toNat = (textBefore before).count '\n') :
    (ofText (String.ofList (textBefore before ++ line ++ textAfter after))).items registry
        ⟨number, character⟩
      = ((ofText (String.ofList line)).items registry ⟨0, character⟩).map (Item.onLine number)
    ∧ (ofText (String.ofList (textBefore before ++ line ++ textAfter after))).hover? registry
        ⟨number, character⟩
      = ((ofText (String.ofList line)).hover? registry ⟨0, character⟩).map
          (HoverAnswer.onLine number) := by
  have hsame : (ofText (String.ofList (textBefore before ++ line ++ textAfter after))).line?
      number.toNat = (ofText (String.ofList line)).line? (0 : UInt32).toNat :=
    hnumber ▸ line?_ofText_surround hline before after
  exact ⟨items_eq_of_getD_line?_eq (by rw [hsame]) rfl, hover?_eq_of_line?_eq hsame⟩

/-- Answers are those of the line alone. A line without line feeds is answered in any text, under the
number of line feeds before it, as the document of that line only is answered under number 0; past the
last line completion is that of the empty document, and nothing is explained. So texts that hold the
line under one number are answered alike there, whatever else differs. -/
theorem answers_of_line (registry : Registry) :
    (∀ (before after : Option (List Char)) (line : List Char) (number character : UInt32),
      '\n' ∉ line → number.toNat = (textBefore before).count '\n' →
      let whole := ofText (String.ofList (textBefore before ++ line ++ textAfter after))
      let alone := ofText (String.ofList line)
      whole.items registry ⟨number, character⟩
          = (alone.items registry ⟨0, character⟩).map (Item.onLine number)
        ∧ whole.hover? registry ⟨number, character⟩
          = (alone.hover? registry ⟨0, character⟩).map (HoverAnswer.onLine number))
    ∧ (∀ (text : List Char) (number character : UInt32), text.count '\n' < number.toNat →
      (ofText (String.ofList text)).items registry ⟨number, character⟩
          = ((ofText "").items registry ⟨0, 0⟩).map (Item.onLine number)
        ∧ (ofText (String.ofList text)).hover? registry ⟨number, character⟩ = none)
    ∧ ∀ (before after before' after' : Option (List Char)) (line : List Char)
        (number character : UInt32), '\n' ∉ line →
      number.toNat = (textBefore before).count '\n' →
      number.toNat = (textBefore before').count '\n' →
      let document := ofText (String.ofList (textBefore before ++ line ++ textAfter after))
      let edited := ofText (String.ofList (textBefore before' ++ line ++ textAfter after'))
      document.items registry ⟨number, character⟩ = edited.items registry ⟨number, character⟩
        ∧ document.hover? registry ⟨number, character⟩
          = edited.hover? registry ⟨number, character⟩ := by
  refine ⟨fun before after line number character hline hnumber =>
    answers_of_surround registry hline before after character hnumber,
    fun text number character hpast => ?_, ?_⟩
  · have hnone := line?_ofText_eq_none hpast
    have hempty : ((ofText "").line? (0 : UInt32).toNat).getD [] = [] := by decide
    refine ⟨items_eq_of_getD_line?_eq ?_ ?_, hover?_of_line?_eq_none hnone⟩
    · rw [hnone, hempty, Option.getD_none]
    · rw [hempty, charColumn_zero]
      rfl
  · intro before after before' after' line number character hline hnumber hnumber'
    obtain ⟨hitems, hhover⟩ := answers_of_surround registry hline before after character hnumber
    obtain ⟨hitems', hhover'⟩ := answers_of_surround registry hline before' after' character hnumber'
    exact ⟨hitems.trans hitems'.symm, hhover.trans hhover'.symm⟩

/-- The second line of a text whose lines end in a carriage return and a line feed. -/
theorem answers_of_line_after_carriage_return :
    let registry : Registry := .ofEntries [.ofSymbols "fmt" [⟨"Println", "Println", "", .function⟩]]
      [] [] []
    let before := some "package main\r".toList
    let line := "x fmt.\r".toList
    let whole := ofText (String.ofList (textBefore before ++ line ++ textAfter (some ['}'])))
    let alone := ofText (String.ofList line)
    '\n' ∉ line ∧ (1 : UInt32).toNat = (textBefore before).count '\n'
      ∧ whole.items registry ⟨1, 6⟩ = (alone.items registry ⟨0, 6⟩).map (Item.onLine 1)
      ∧ (alone.items registry ⟨0, 6⟩).map Item.label = ["Println"] := by
  intro registry before line whole alone
  have hline : '\n' ∉ line := by decide
  have hnumber : (1 : UInt32).toNat = (textBefore before).count '\n' := by decide
  have hanswers := (answers_of_line registry).1 before (some ['}']) line 1 6 hline hnumber
  exact ⟨hline, hnumber, hanswers.1, by decide +kernel⟩

end Document

end GoAssist
