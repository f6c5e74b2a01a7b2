import GoAssist.Proofs.Document.Line
import GoAssist.Proofs.Document.Utf16
import GoAssist.Proofs.Line.Run
import GoAssist.Registry.GoStandard
import GoAssist.Server.Wire
import Mathlib.Data.List.Forall2

/-!
# What an editor is told about a place

A place of a document is a line and a unit of its encoding. What an editor is told there is what is
known at a column of the line in characters, and its ranges are in units again. Both answers are
computed from a cut of the line: `range_of_mem_items` for the items of a completion, whose edit
covers what was typed of an identifier, and `hover?_eq_some_iff` for the explanation of a word,
whose range covers the whole word. The cut says which characters a range stands for, and
`toTextRange_of_cut` says where these stand in the encoding.

A range is in 32-bit words. In a line so long that they do not hold the end of a word, the word is still
explained (`hover?_where_word_begins`), but its range may end before it starts
(`not_forall_hover?_covers_word`).
-/

namespace GoAssist

/-! ## Ranges -/

/-- A cut of a line gives the range of its middle part, in 32-bit words. -/
theorem toTextRange_of_cut (before part rest : List Char) (number : UInt32) :
    Span.toTextRange ⟨before.length, (before ++ part).length⟩ number (before ++ part ++ rest)
      = ⟨⟨number, UInt32.ofNat (utf16Length before)⟩,
          ⟨number, UInt32.ofNat (utf16Length (before ++ part))⟩⟩ := by
  rw [Span.toTextRange, utf16Column_append, List.append_assoc, utf16Column_append]

/-! ## Completion -/

/-- An item says of a candidate what the protocol has words for. -/
structure Item.Presents (item : Item) (candidate : Candidate) : Prop where
  label : item.label = candidate.label
  detail : item.detail = candidate.detail
  newText : item.newText = candidate.insertText
  kind : item.kind = candidate.kind
  format : textFormat item.isSnippet = if hasPlaceholders candidate.insertText then 2 else 1

theorem presents_ofCandidate (number : UInt32) (line : Line) (candidate : Candidate) :
    (Item.ofCandidate number line candidate).Presents candidate :=
  ⟨rfl, rfl, rfl, rfl, rfl⟩

/-- The protocol's numbers tell the kinds apart. -/
theorem CandidateKind.eq_of_code_eq {first second : CandidateKind}
    (h : first.code = second.code) : first = second := by
  cases first <;> cases second <;> first | rfl | cases h

namespace Document

variable {registry : Registry} {document : Document} {number : UInt32} {line : Line}

/-- Two places on a line are answered alike if they are the same column in characters. -/
theorem items_eq_of_charColumn_eq (hline : document.line? number.toNat = some line)
    {first second : UInt32} (h : charColumn line first = charColumn line second) :
    document.items registry ⟨number, first⟩ = document.items registry ⟨number, second⟩ := by
  simp only [items, hline, Option.getD_some, h]

/-- Every item at a cursor replaces what stands before the cursor of an identifier. -/
theorem range_of_mem_items {before typed rest : List Char}
    (hline : document.line? number.toNat = some (before ++ typed ++ rest))
    (hcut : IsTail before typed) {target : UInt32}
    (htarget : charColumn (before ++ typed ++ rest) target = (before ++ typed).length)
    {item : Item} (hitem : item ∈ document.items registry ⟨number, target⟩) :
    item.range = ⟨⟨number, UInt32.ofNat (utf16Length before)⟩,
      ⟨number, UInt32.ofNat (utf16Length (before ++ typed))⟩⟩ := by
  simp only [items, hline, Option.getD_some, htarget] at hitem
  obtain ⟨candidate, hcandidate, rfl⟩ := List.mem_map.mp hitem
  have hspan := Registry.span_of_mem_candidates hcandidate
  rw [span_analyze, typedSpan_of_isTail hcut] at hspan
  rw [Item.ofCandidate, hspan, toTextRange_of_cut]

/-- At a column of a line that fits into 32-bit places, an editor is offered the candidates at that
column, in their order. All items replace one range: it is on the line, it ends at the cursor, and
its units encode the longest run of identifier characters that ends there. A place past the end of
the line counts as the end, and a place between the halves of a pair as the place after it. -/
theorem items_at_cursor (registry : Registry) (hline : document.line? number.toNat = some line)
    (hfits : utf16Length line < UInt32.size) (column : Nat) (hcolumn : column ≤ line.length) :
    (List.Forall₂ Item.Presents (document.items registry ⟨number, utf16Column line column⟩)
        (registry.candidatesAt line column)
      ∧ ∀ first second : CandidateKind, first.code = second.code → first = second)
    ∧ (∃ before typed rest start, line = before ++ typed ++ rest ∧ IsTail before typed
      ∧ (before ++ typed).length = column
      ∧ start ≤ utf16Column line column
      ∧ utf16Slice line start (utf16Column line column) = utf16 typed
      ∧ ∀ item ∈ document.items registry ⟨number, utf16Column line column⟩,
          item.range = ⟨⟨number, start⟩, ⟨number, utf16Column line column⟩⟩)
    ∧ (∀ target : UInt32, utf16Length line ≤ target.toNat →
        document.items registry ⟨number, target⟩
          = document.items registry ⟨number, utf16Column line line.length⟩)
    ∧ ∀ (before : List Char) (c : Char) (rest : List Char) (target : UInt32),
        line = before ++ c :: rest → utf16Size c = 2 → target.toNat = utf16Length before + 1 →
        document.items registry ⟨number, target⟩
          = document.items registry ⟨number, utf16Column line (before.length + 1)⟩ := by
  refine ⟨⟨?_, fun _ _ => CandidateKind.eq_of_code_eq⟩, ?_, fun target htarget => ?_, ?_⟩
  · simp only [items, hline, Option.getD_some, charColumn_utf16Column hfits hcolumn]
    exact List.forall₂_map_left_iff.mpr
      (List.forall₂_same.mpr fun candidate _ => presents_ofCandidate number line candidate)
  · obtain ⟨before, typed, rest, rfl, hcut, hlength⟩ := exists_isTail_at line column
    rw [Nat.min_eq_left hcolumn] at hlength
    subst hlength
    have htyped : utf16Length (before ++ typed) < UInt32.size :=
      Nat.lt_of_le_of_lt (utf16Length_le_append (before ++ typed) rest) hfits
    have hcursor := charColumn_utf16Column hfits hcolumn
    rw [utf16Column_append] at hcursor ⊢
    exact ⟨before, typed, rest, UInt32.ofNat (utf16Length before), rfl, hcut, rfl,
      places_le_of_cut htyped, utf16Slice_of_cut htyped rest,
      fun item hitem => range_of_mem_items hline hcut hcursor hitem⟩
  · refine items_eq_of_charColumn_eq hline ?_
    rw [charColumn_of_length_le hfits htarget, charColumn_utf16Column hfits (Nat.le_refl _)]
  · intro before c rest target hsplit hpair htarget
    subst hsplit
    refine items_eq_of_charColumn_eq hline ?_
    rw [charColumn_of_within hfits (by omega) (by omega),
      charColumn_utf16Column hfits (by simp)]

/-- A cursor inside an identifier whose first letter is a pair, with another pair in front. -/
theorem items_at_cursor_between_pairs :
    (Document.ofText "😀𝑥1").line? (0 : UInt32).toNat = some ['😀', '𝑥', '1']
    ∧ utf16Length ['😀', '𝑥', '1'] < UInt32.size ∧ 2 ≤ ['😀', '𝑥', '1'].length
    ∧ ∃ start : UInt32, start ≤ 4 ∧ utf16Slice ['😀', '𝑥', '1'] start 4 = utf16 ['𝑥']
      ∧ ∀ item ∈ (Document.ofText "😀𝑥1").items .goStandard ⟨0, 4⟩,
          item.range = ⟨⟨0, start⟩, ⟨0, 4⟩⟩ := by
  have hline : (Document.ofText "😀𝑥1").line? (0 : UInt32).toNat = some ['😀', '𝑥', '1'] := by decide
  obtain ⟨-, ⟨before, typed, rest, start, hsplit, hcut, hlength, hle, hslice, hrange⟩, -⟩ :=
    items_at_cursor .goStandard hline (by decide) 2 (by decide)
  have htyped : typed = ['𝑥'] := by
    have htake : before ++ typed = ['😀', '𝑥'] :=
      (List.take_left' hlength).symm.trans (congrArg (List.take 2) hsplit.symm)
    rw [← hcut.identSuffix_append, htake]
    decide +kernel
  rw [htyped] at hslice
  exact ⟨hline, by decide, by decide, start, hle, hslice, hrange⟩

/-! ## Hover -/

/-- The explanation of a place is that of the word that the place touches, with the word's range. -/
theorem hover?_eq_some_iff {target : UInt32} {answer : HoverAnswer} :
    document.hover? registry ⟨number, target⟩ = some answer ↔
      ∃ before word rest hover, document.line? number.toNat = some (before ++ word ++ rest)
        ∧ IsWordAt before word rest (charColumn (before ++ word ++ rest) target)
        ∧ registry.hover? (String.ofList word) = some hover
        ∧ answer = ⟨hover.contents, ⟨⟨number, UInt32.ofNat (utf16Length before)⟩,
            ⟨number, UInt32.ofNat (utf16Length (before ++ word))⟩⟩⟩ := by
  simp only [hover?, Option.bind_eq_bind, Option.bind_eq_some_iff, Option.pure_def,
    Option.some.injEq]
  constructor
  · rintro ⟨line, hline, word, hword, hover, hhover, rfl⟩
    obtain ⟨before, rest, rfl, hcut, hspan⟩ := wordAt?_eq_some_iff.mp hword
    rw [Nat.min_eq_left (charColumn_le_length _ _)] at hcut
    refine ⟨before, word.text, rest, hover, hline, hcut, hhover, ?_⟩
    rw [hspan, toTextRange_of_cut]
  · rintro ⟨before, word, rest, hover, hline, hcut, hhover, rfl⟩
    refine ⟨_, hline, ⟨word, ⟨before.length, (before ++ word).length⟩⟩,
      wordAt?_eq_some_iff.mpr ⟨before, rest, rfl, ?_, rfl⟩, hover, hhover, ?_⟩
    · rwa [Nat.min_eq_left (charColumn_le_length _ _)]
    · rw [toTextRange_of_cut]

/-- A place is explained exactly if it touches an identifier that the registry explains, and the
answer is that explanation with the range of the identifier. The range begins and ends where the
identifier does in the encoded line; where 32 bits hold its end it is not empty and its units encode
the identifier. On a line that fits into 32-bit places, every place of the range that is the
beginning of a character, or its end, has the same answer. -/
theorem hover?_covers_word (registry : Registry) (document : Document) (number target : UInt32) :
    ((document.hover? registry ⟨number, target⟩).isSome ↔
      ∃ line before word rest, document.line? number.toNat = some line
        ∧ line = before ++ word ++ rest ∧ IsWordAt before word rest (charColumn line target)
        ∧ (registry.hover? (String.ofList word)).isSome)
    ∧ ∀ answer, document.hover? registry ⟨number, target⟩ = some answer →
      ∃ line before word rest hover, document.line? number.toNat = some line
        ∧ line = before ++ word ++ rest ∧ IsWordAt before word rest (charColumn line target)
        ∧ registry.hover? (String.ofList word) = some hover
        ∧ answer.contents = hover.contents
        ∧ answer.range.start = ⟨number, UInt32.ofNat (utf16Length before)⟩
        ∧ answer.range.stop = ⟨number, UInt32.ofNat (utf16Length (before ++ word))⟩
        ∧ (utf16Length (before ++ word) < UInt32.size →
            answer.range.start.character < answer.range.stop.character
            ∧ utf16Slice line answer.range.start.character answer.range.stop.character = utf16 word)
        ∧ (utf16Length line < UInt32.size → ∀ column ≤ line.length,
            answer.range.start.character ≤ utf16Column line column →
            utf16Column line column ≤ answer.range.stop.character →
            document.hover? registry ⟨number, utf16Column line column⟩ = some answer) := by
  refine ⟨?_, fun answer hanswer => ?_⟩
  · rw [Option.isSome_iff_exists]
    constructor
    · rintro ⟨answer, hanswer⟩
      obtain ⟨before, word, rest, hover, hline, hcut, hhover, -⟩ := hover?_eq_some_iff.mp hanswer
      exact ⟨_, before, word, rest, hline, rfl, hcut, by rw [hhover, Option.isSome_some]⟩
    · rintro ⟨line, before, word, rest, hline, rfl, hcut, hsome⟩
      obtain ⟨hover, hhover⟩ := Option.isSome_iff_exists.mp hsome
      exact ⟨_, hover?_eq_some_iff.mpr ⟨before, word, rest, hover, hline, hcut, hhover, rfl⟩⟩
  · obtain ⟨before, word, rest, hover, hline, hcut, hhover, rfl⟩ := hover?_eq_some_iff.mp hanswer
    refine ⟨_, before, word, rest, hover, hline, rfl, hcut, hhover, rfl, rfl, rfl,
      fun hfits => ⟨places_lt_of_cut hfits hcut.ne_nil, utf16Slice_of_cut hfits rest⟩,
      fun hfits column hcolumn hstart hstop => ?_⟩
    -- The place is a column that touches the word, so the cut of the line serves there too.
    have hbefore : utf16Column (before ++ word ++ rest) before.length
        = UInt32.ofNat (utf16Length before) := by
      rw [List.append_assoc, utf16Column_append]
    have hword := utf16Column_append (before ++ word) rest
    dsimp only at hstart hstop
    rw [← hbefore, utf16Column_le_iff hfits (by simp) hcolumn] at hstart
    rw [← hword, utf16Column_le_iff hfits hcolumn (by simp)] at hstop
    refine hover?_eq_some_iff.mpr ⟨before, word, rest, hover, hline, ?_, hhover, rfl⟩
    rw [charColumn_utf16Column hfits hcolumn]
    exact ⟨hcut.toIsWord, hcut.ne_nil, hstart, hstop⟩

/-- A place between the halves of a pair is explained by the identifier that the pair begins, and so
is every place of that identifier. -/
theorem hover?_covers_word_between_halves :
    let document := Document.ofText "😀𝑥1"
    let registry := Registry.ofEntries [] [] ["𝑥1"] []
    let answer : HoverAnswer := ⟨["**𝑥1** (built-in type)"], ⟨⟨0, 2⟩, ⟨0, 5⟩⟩⟩
    document.hover? registry ⟨0, 3⟩ = some answer
    ∧ (∃ word hover, registry.hover? (String.ofList word) = some hover
      ∧ answer.contents = hover.contents ∧ utf16Slice ['😀', '𝑥', '1'] 2 5 = utf16 word)
    ∧ ∀ column ≤ 3, 2 ≤ utf16Column ['😀', '𝑥', '1'] column →
        utf16Column ['😀', '𝑥', '1'] column ≤ 5 →
        document.hover? registry ⟨0, utf16Column ['😀', '𝑥', '1'] column⟩ = some answer := by
  intro document registry answer
  have hanswer : document.hover? registry ⟨0, 3⟩ = some answer := by decide +kernel
  obtain ⟨line, before, word, rest, hover, hline, hsplit, -, hhover, hcontents, -, -, hunits,
    hsame⟩ := (hover?_covers_word registry document 0 3).2 answer hanswer
  have hconcrete : document.line? (0 : UInt32).toNat = some ['😀', '𝑥', '1'] := by decide
  obtain rfl : line = ['😀', '𝑥', '1'] := Option.some.inj (hline.symm.trans hconcrete)
  have hfits : utf16Length ['😀', '𝑥', '1'] < UInt32.size := by decide
  have hword : utf16Length (before ++ word) < UInt32.size :=
    Nat.lt_of_le_of_lt (utf16Length_le_append _ rest) (hsplit ▸ hfits)
  exact ⟨hanswer, ⟨word, hover, hhover, hcontents, (hunits hword).2⟩, hsame hfits⟩

/-- A type is explained, if only as one: a function of its name would come first. -/
theorem isSome_hover?_of_isType {name : String} (h : registry.isType name = true) :
    (registry.hover? name).isSome := by
  rw [Registry.hover?]
  split
  · rfl
  · rw [if_pos h]
    split <;> rfl

/-- A word is explained where it begins, however long the line is. -/
theorem hover?_where_word_begins {before word rest : List Char} {target : UInt32} {hover : Hover}
    (hline : document.line? number.toNat = some (before ++ word ++ rest))
    (hword : IsWord before word rest) (hne : word ≠ [])
    (hhover : registry.hover? (String.ofList word) = some hover)
    (htarget : target.toNat = utf16Length before) :
    document.hover? registry ⟨number, target⟩ = some ⟨hover.contents,
      ⟨⟨number, UInt32.ofNat (utf16Length before)⟩,
        ⟨number, UInt32.ofNat (utf16Length (before ++ word))⟩⟩⟩ := by
  have hcolumn : charColumn (before ++ word ++ rest) target = before.length := by
    rw [List.append_assoc]
    exact charColumn_append _ htarget
  have hat : IsWordAt before word rest (charColumn (before ++ word ++ rest) target) := by
    rw [hcolumn]
    exact ⟨hword, hne, Nat.le_refl _, by simp⟩
  exact hover?_eq_some_iff.mpr ⟨before, word, rest, hover, hline, hat, hhover, rfl⟩

theorem isWord_after_blanks (n : Nat) {word : List Char} (h : ∀ c ∈ word, isIdentChar c = true) :
    IsWord (List.replicate n ' ') word [] := by
  refine ⟨⟨h, fun c hc => ?_⟩, fun c hc => by cases hc⟩
  obtain rfl := List.eq_of_mem_replicate (List.mem_of_getLast? hc)
  decide

theorem line?_blanks_int (n : Nat) :
    (ofText (String.ofList (List.replicate n ' ' ++ ['i', 'n', 't']))).line? 0
      = some (List.replicate n ' ' ++ ['i', 'n', 't'] ++ []) := by
  have hplain : '\n' ∉ List.replicate n ' ' ++ ['i', 'n', 't'] := by
    intro hmem
    rcases List.mem_append.mp hmem with hmem | hmem
    · cases List.eq_of_mem_replicate hmem
    · revert hmem
      decide
  rw [line?_ofText, textLines_of_not_mem hplain, dropCarriageReturn, if_neg (by simp),
    List.append_nil]
  rfl

/-- Where a word ends past the last 32-bit place, its end is counted from the beginning of the line
again, so that its range ends before it starts. -/
theorem not_forall_hover?_covers_word :
    ¬∀ (document : Document) (number target : UInt32) (answer : HoverAnswer),
      document.hover? .goStandard ⟨number, target⟩ = some answer →
      ∃ line before word rest, document.line? number.toNat = some line
        ∧ line = before ++ word ++ rest ∧ IsWordAt before word rest (charColumn line target)
        ∧ answer.range.start.character < answer.range.stop.character
        ∧ utf16Slice line answer.range.start.character answer.range.stop.character = utf16 word := by
  intro h
  -- The number of blanks is named, as no proof may count them one by one.
  obtain ⟨n, target, htarget, hwraps⟩ : ∃ (n : Nat) (target : UInt32), target.toNat = n
      ∧ UInt32.ofNat (n + 3) = 0 := ⟨4294967293, 4294967293, rfl, rfl⟩
  have hblanks : utf16Length (List.replicate n ' ') = n :=
    (utf16Length_replicate n ' ').trans (Nat.mul_one n)
  obtain ⟨hover, hhover⟩ : ∃ hover, Registry.goStandard.hover? "int" = some hover :=
    Option.isSome_iff_exists.mp (isSome_hover?_of_isType (by decide +kernel))
  have hword : IsWord (List.replicate n ' ') ['i', 'n', 't'] [] :=
    isWord_after_blanks n (List.all_eq_true.mp (by decide))
  have hanswer := @hover?_where_word_begins .goStandard _ 0 _ _ _ _ _ (line?_blanks_int n) hword
    (by simp) hhover (htarget.trans hblanks.symm)
  obtain ⟨-, -, -, -, -, -, -, hlt, -⟩ := h _ _ _ _ hanswer
  have hstop : UInt32.ofNat (utf16Length (List.replicate n ' ' ++ ['i', 'n', 't'])) = 0 := by
    rw [utf16Length_append, hblanks]
    exact hwraps
  rw [hstop] at hlt
  exact absurd hlt UInt32.not_lt_zero

end Document

end GoAssist
