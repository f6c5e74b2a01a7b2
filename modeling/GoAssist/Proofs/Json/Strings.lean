import GoAssist.Json.Printer
import GoAssist.Json.Reader

/-!
# Strings are read back from their text

A printed string is scanned as one token that decodes to it, whatever its characters are
(`run_quoted`, `decode_written`): a character is written plainly, by a short escape or by its code, and
each of the three is read as that character. An object of strings, one member to a line, is then read
token by token, by induction on its members (`ofText?_pretty_ofStringMembers`): between two tokens there are
only blanks, and every token of such a text is complete with its last character.
-/

namespace GoAssist

/-! ## Characters -/

/-- The control characters that have a short escape. -/
def hasShortEscape (c : Char) : Prop :=
  c = '\x08' ∨ c = '\x0c' ∨ c = '\n' ∨ c = '\r' ∨ c = '\t'

instance (c : Char) : Decidable (hasShortEscape c) :=
  inferInstanceAs (Decidable (_ ∨ _))

/-- The piece that a printed character is read as. -/
def writtenPiece (c : Char) : StringPiece :=
  if c.toNat < 0x20 ∧ ¬hasShortEscape c then .unit c.toNat else .char c

/-- The string that a printed text is read as. -/
def written (text : String) : RawString :=
  text.toList.map writtenPiece

namespace Scan

variable {pieces : RawString} {tokens : List Token}

/-- A backslash and the letter of an escape are one character. -/
theorem run_shortEscape {letter c : Char} (hletter : letter ≠ 'u')
    (h : shortEscape? letter = some c) :
    run ⟨.string pieces, tokens⟩ ['\\', letter] = some ⟨.string (.char c :: pieces), tokens⟩ := by
  simp [run, step, hletter, h]

/-- Four digits are read as the code that they spell. -/
theorem run_code {code : Nat} (h : code < 0x20) :
    run ⟨.string pieces, tokens⟩
        ['\\', 'u', '0', '0', hexDigit (code / 16), hexDigit (code % 16)]
      = some ⟨.string (.unit code :: pieces), tokens⟩ := by
  have hzero : hexDigit? '0' = some 0 := by decide
  have hhigh := digit?_hexDigit (n := code / 16) (by omega)
  have hlow := digit?_hexDigit (n := code % 16) (by omega)
  have hcode : code / 16 * 16 + code % 16 = code := by omega
  simp [run, step, hzero, hhigh, hlow, hcode]

/-- A printed character is read as its piece. -/
theorem run_escapeChar (c : Char) :
    run ⟨.string pieces, tokens⟩ (escapeChar c)
      = some ⟨.string (writtenPiece c :: pieces), tokens⟩ := by
  by_cases hshort : c = '"' ∨ c = '\\' ∨ hasShortEscape c
  · rcases hshort with rfl | rfl | rfl | rfl | rfl | rfl | rfl <;>
      exact run_shortEscape (by decide) rfl
  · obtain ⟨hquote, hbackslash, hnot⟩ : c ≠ '"' ∧ c ≠ '\\' ∧ ¬hasShortEscape c := by
      simpa only [not_or, ne_eq] using hshort
    by_cases hcontrol : c.toNat < 0x20
    · have hwritten : writtenPiece c = .unit c.toNat := by
        rw [writtenPiece, if_pos ⟨hcontrol, hnot⟩]
      obtain ⟨hb, hf, hn, hr, ht⟩ : c ≠ '\x08' ∧ c ≠ '\x0c' ∧ c ≠ '\n' ∧ c ≠ '\r' ∧ c ≠ '\t' := by
        simpa only [hasShortEscape, not_or, ne_eq] using hnot
      simp only [escapeChar, hquote, hbackslash, hb, hf, hn, hr, ht, hcontrol, if_false, if_true,
        hwritten]
      exact run_code hcontrol
    · have hwritten : writtenPiece c = .char c := by
        rw [writtenPiece, if_neg fun h => hcontrol h.1]
      rw [escapeChar_of_plain hquote hbackslash (Nat.le_of_not_lt hcontrol), hwritten]
      simp [run, step, hquote, hbackslash, hcontrol]

theorem run_flatMap_escapeChar (text : List Char) :
    run ⟨.string pieces, tokens⟩ (text.flatMap escapeChar)
      = some ⟨.string ((text.map writtenPiece).reverse ++ pieces), tokens⟩ := by
  induction text generalizing pieces with
  | nil => rfl
  | cons c text ih =>
      rw [List.flatMap_cons, run_append, run_escapeChar, Option.bind_some, ih, List.map_cons,
        List.reverse_cons, List.append_assoc, List.singleton_append]

/-- A printed string is read as one token. -/
theorem run_quoted (text : String) :
    run ⟨.between, tokens⟩ (quoted text).toList
      = some ⟨.between, .string (written text) :: tokens⟩ := by
  have hopen : run ⟨.between, tokens⟩ ['"'] = some ⟨.string [], tokens⟩ := rfl
  rw [quoted, String.toList_ofList, ← List.singleton_append, List.append_assoc, run_append, hopen,
    Option.bind_some, run_append, run_flatMap_escapeChar, Option.bind_some, List.append_nil]
  simp [run, step, written]

theorem run_blank {text : List Char} (h : ∀ c ∈ text, isBlank c = true) :
    run ⟨.between, tokens⟩ text = some ⟨.between, tokens⟩ := by
  induction text with
  | nil => rfl
  | cons c text ih =>
      have hstep : step ⟨.between, tokens⟩ c = some ⟨.between, tokens⟩ := by
        simp [step, start, h c List.mem_cons_self]
      have hrest := ih fun d hd => h d (List.mem_cons_of_mem c hd)
      simpa [run, hstep] using hrest

end Scan

/-! ## Decoding -/

namespace RawString

/-- A unit that is no half of a character stands for the character of its code. -/
theorem decodeChars_unit_cons {code : Nat} (h : code < 0xD800) (rest : RawString) :
    decodeChars (.unit code :: rest) = (decodeChars rest).map (Char.ofNat code :: ·) := by
  have hhigh : ¬(0xD800 ≤ code ∧ code < 0xDC00) := by omega
  have hlow : ¬(0xDC00 ≤ code ∧ code < 0xE000) := by omega
  have hhalf : ¬(0xD800 ≤ code ∧ code < 0xE000) := by omega
  match rest with
  | [] => simp [decodeChars, hhalf]
  | .char c :: rest => simp [decodeChars, hhalf]
  | .unit low :: rest => rw [decodeChars, if_neg hhigh, if_neg hlow]

theorem decodeChars_map_writtenPiece (text : List Char) :
    decodeChars (text.map writtenPiece) = some text := by
  induction text with
  | nil => rfl
  | cons c text ih =>
      rw [List.map_cons, writtenPiece]
      split
      · rename_i hcode
        rw [decodeChars_unit_cons (by omega), ih, Option.map_some, Char.ofNat_toNat]
      · rw [decodeChars, ih, Option.map_some]

theorem decode_written (text : String) : (written text).decode = some text := by
  rw [decode, written, decodeChars_map_writtenPiece, Option.map_some, String.ofList_toList]

end RawString

/-! ## Objects of strings -/

/-- An object of strings. -/
def Json.ofStringMembers (members : List (String × String)) : Json :=
  .object (members.map fun member => (member.1, .string member.2))

theorem Json.prettyMembers_cons_cons (level : Nat) (key : String) (value : Json)
    (next : String × Json) (members : List (String × Json)) :
    prettyMembers level ((key, value) :: next :: members)
      = lineBreak level ++ quoted key ++ ": " ++ prettyAt level value ++ ","
        ++ prettyMembers level (next :: members) := by
  rw [prettyMembers]
  exact List.cons_ne_nil next members

theorem Json.prettyAt_object_cons (level : Nat) (member : String × Json)
    (members : List (String × Json)) :
    prettyAt level (.object (member :: members))
      = "\x7b" ++ prettyMembers (level + 1) (member :: members) ++ lineBreak level ++ "\x7d" := by
  rw [prettyAt]
  exact List.cons_ne_nil member members

/-- The tokens of the members of an object of strings, with commas between them. -/
def memberTokens : List (String × String) → List Token
  | [] => []
  | [(key, value)] => [.string (written key), .colon, .string (written value)]
  | (key, value) :: members =>
    [.string (written key), .colon, .string (written value), .comma] ++ memberTokens members

/-- The members of an object of strings as they are read. -/
def writtenMembers (members : List (String × String)) : List (RawString × RawJson) :=
  members.map fun member => (written member.1, .string (written member.2))

namespace Scan

theorem run_lineBreak (level : Nat) (tokens : List Token) :
    run ⟨.between, tokens⟩ (Json.lineBreak level).toList = some ⟨.between, tokens⟩ := by
  refine run_blank fun c hc => ?_
  rw [Json.lineBreak, String.toList_ofList] at hc
  rcases List.mem_cons.mp hc with rfl | hc
  · rfl
  · rw [List.eq_of_mem_replicate hc]
    rfl

/-- A member on a line of its own is three tokens. -/
theorem run_member (level : Nat) (key value : String) (tokens : List Token) :
    run ⟨.between, tokens⟩ (Json.lineBreak level ++ quoted key ++ ": " ++ quoted value).toList
      = some ⟨.between, .string (written value) :: .colon :: .string (written key) :: tokens⟩ := by
  have hcolon (read : List Token) :
      run ⟨.between, read⟩ ": ".toList = some ⟨.between, .colon :: read⟩ := rfl
  simp only [String.toList_append, run_append, run_lineBreak, run_quoted, Option.bind_some, hcolon]

theorem run_prettyMembers (level : Nat) : ∀ (members : List (String × String))
    (tokens : List Token),
    run ⟨.between, tokens⟩
        (Json.prettyMembers level (members.map fun member => (member.1, .string member.2))).toList
      = some ⟨.between, (memberTokens members).reverse ++ tokens⟩
  | [], _ => rfl
  | [(key, value)], tokens => run_member level key value tokens
  | (key, value) :: next :: members, tokens => by
      have hcomma (read : List Token) :
          run ⟨.between, read⟩ ",".toList = some ⟨.between, .comma :: read⟩ := rfl
      have ih := run_prettyMembers level (next :: members)
      rw [List.map_cons] at ih
      rw [List.map_cons, List.map_cons, Json.prettyMembers_cons_cons, Json.prettyAt,
        String.toList_append, run_append, String.toList_append, run_append, run_member,
        Option.bind_some, hcomma, Option.bind_some, ih]
      simp [memberTokens]

theorem tokens?_pretty_ofStringMembers (members : List (String × String)) :
    tokens? (Json.ofStringMembers members).pretty.toList
      = some (.openBrace :: memberTokens members ++ [.closeBrace]) := by
  have hopen : run ⟨.between, []⟩ "\x7b".toList = some ⟨.between, [.openBrace]⟩ := rfl
  have hclose (read : List Token) :
      run ⟨.between, read⟩ "\x7d".toList = some ⟨.between, .closeBrace :: read⟩ := rfl
  cases members with
  | nil => rfl
  | cons member members =>
      have hmembers := run_prettyMembers 1 (member :: members) [.openBrace]
      rw [List.map_cons] at hmembers
      rw [tokens?, Json.ofStringMembers, Json.pretty, List.map_cons,
        Json.prettyAt_object_cons]
      simp only [String.toList_append, run_append, hopen, Option.bind_some, hmembers, run_lineBreak,
        hclose, finish?]
      simp

end Scan

namespace ReadState

/-- A member is read from its three tokens where a key may come. -/
theorem foldlM_member {read : List (RawString × RawJson)} {state : ReadState} {name : RawString}
    (hstate : state.step (.string name) = some (.colon read name [])) (text : RawString) :
    [Token.string name, .colon, .string text].foldlM step state
      = some (.afterMember ((name, .string text) :: read) []) := by
  rw [List.foldlM_cons, hstate]
  rfl

/-- The members of an object of strings are read from their tokens where a key may come. -/
theorem foldlM_memberTokens : ∀ (members : List (String × String))
    (read : List (RawString × RawJson)) (state : ReadState),
    (∀ name, state.step (.string name) = some (.colon read name [])) → members ≠ [] →
    (memberTokens members).foldlM step state
      = some (.afterMember ((writtenMembers members).reverse ++ read) [])
  | [], _, _, _, h => absurd rfl h
  | [(name, text)], _, _, hstate, _ => foldlM_member (hstate (written name)) (written text)
  | (name, text) :: next :: members, read, state, hstate, _ => by
      have ih := foldlM_memberTokens (next :: members)
        ((written name, .string (written text)) :: read)
        (ReadState.key ((written name, .string (written text)) :: read) []) (fun _ => rfl)
        (List.cons_ne_nil _ _)
      have hfirst := foldlM_member (hstate (written name)) (written text)
      have htokens : memberTokens ((name, text) :: next :: members)
          = [.string (written name), .colon, .string (written text)]
            ++ .comma :: memberTokens (next :: members) := rfl
      rw [htokens, List.foldlM_append, hfirst, Option.bind_eq_bind, Option.bind_some,
        List.foldlM_cons]
      refine ih.trans ?_
      simp [writtenMembers]

end ReadState

/-- The text of an object of strings is read as its members, in their order. -/
theorem ofText?_pretty_ofStringMembers (members : List (String × String)) :
    RawJson.ofText? (Json.ofStringMembers members).pretty
      = some (.object (writtenMembers members)) := by
  rw [RawJson.ofText?, Scan.tokens?_pretty_ofStringMembers, Option.bind_some, RawJson.ofTokens?]
  cases members with
  | nil => rfl
  | cons member members =>
      have hmembers := ReadState.foldlM_memberTokens (member :: members) [] (.firstKey [])
        (fun _ => rfl) (List.cons_ne_nil _ _)
      simp [hmembers, ReadState.step, ReadState.beginValue, ReadState.close]

end GoAssist
