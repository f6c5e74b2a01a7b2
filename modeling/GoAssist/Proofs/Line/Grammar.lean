import GoAssist.Proofs.Line.Run

/-!
# The grammar of member positions

The text before a cursor makes a member position if it ends in an identifier and a dot, and the
identifier is a longest run. `EndsInMember` says so by a cut of the text, and
`packageBeforeDot?_eq_some_iff` that the scans before the cursor accept these texts and no others.
They find one name, so a text ends in one member at most (`EndsInMember.unique`).

Every other cursor is in general position, and what it replaces is the longest run before it: every
run of identifier characters that ends there is a part of it (`IsTail.suffix_tail`).
-/

namespace GoAssist

/-- `text` ends in the identifier `name` and a dot, and no identifier character stands before the
name. -/
def EndsInMember (text name : List Char) : Prop :=
  ∃ before, text = before ++ name ++ ['.'] ∧ IsIdentifier name
    ∧ ∀ c ∈ before.getLast?, isIdentChar c = false

/-- The name before a dot is found exactly where the grammar has one. -/
theorem packageBeforeDot?_eq_some_iff {text name : List Char} :
    packageBeforeDot? text = some name ↔ EndsInMember text name := by
  constructor
  · intro h
    rw [packageBeforeDot?] at h
    split at h
    · rename_i hlast
      obtain ⟨before, hbefore, htail⟩ := exists_isTail text.dropLast
      have htext : text = text.dropLast ++ ['.'] := by
        obtain ⟨init, rfl⟩ := List.getLast?_eq_some_iff.mp hlast
        rw [List.dropLast_concat]
      dsimp only at h
      split at h
      · cases h
      · rename_i c rest hname
        split at h
        · rename_i hstart
          obtain rfl := Option.some.inj h
          rw [isIdentStart, Bool.and_eq_true, Bool.not_eq_true'] at hstart
          refine ⟨before, by rw [← hbefore, ← htext], ⟨?_, htail.ident, fun d hd => ?_⟩,
            htail.left⟩
          · rw [hname]
            exact List.cons_ne_nil c rest
          · rw [hname, List.head?_cons, Option.mem_some_iff] at hd
            exact hd ▸ hstart.2
        · cases h
    · cases h
  · rintro ⟨before, rfl, hname, hleft⟩
    exact packageBeforeDot?_of_isTail ⟨hname.ident, hleft⟩ hname

/-- A text ends in one member at most. -/
theorem EndsInMember.unique {text first second : List Char} (hfirst : EndsInMember text first)
    (hsecond : EndsInMember text second) : first = second :=
  Option.some.inj ((packageBeforeDot?_eq_some_iff.mpr hfirst).symm.trans
    (packageBeforeDot?_eq_some_iff.mpr hsecond))

/-- A run of identifier characters that ends a text is a part of the longest one. -/
theorem IsTail.suffix_tail {before tail run : List Char} (h : IsTail before tail)
    (hrun : run <:+ before ++ tail) (hident : ∀ c ∈ run, isIdentChar c = true) : run <:+ tail := by
  rcases Nat.le_total run.length tail.length with hle | hle
  · exact List.suffix_of_suffix_length_le hrun (List.suffix_append before tail) hle
  · -- Characters of a longer run would stand before the tail, the last of them next to it.
    obtain ⟨extra, rfl⟩ :=
      List.suffix_of_suffix_length_le (List.suffix_append before tail) hrun hle
    obtain ⟨front, hfront⟩ := hrun
    rw [← List.append_assoc] at hfront
    obtain rfl := List.append_cancel_right hfront
    cases hlast : extra.getLast? with
    | none =>
        obtain rfl := List.getLast?_eq_none_iff.mp hlast
        exact List.suffix_refl tail
    | some c =>
        have hleft := h.left c (by
          rw [List.getLast?_append, hlast, Option.some_or, Option.mem_some_iff])
        rw [hident c (List.mem_append_left tail (List.mem_of_getLast? hlast))] at hleft
        cases hleft

/-! ## Classified cursors -/

theorem mode_analyze_eq_member_iff {line : Line} {column : Nat} {package : String} :
    (analyze line column).mode = .member package
      ↔ EndsInMember (line.take column) package.toList := by
  rw [← packageBeforeDot?_eq_some_iff, analyze]
  cases packageBeforeDot? (line.take column) with
  | none => simp
  | some name =>
      simp only [Mode.member.injEq, Option.some.injEq]
      constructor
      · rintro rfl
        rw [String.toList_ofList]
      · rintro rfl
        rw [String.ofList_toList]

theorem mode_analyze_eq_general_iff {line : Line} {column : Nat} :
    (analyze line column).mode = .general ↔ ∀ name, ¬EndsInMember (line.take column) name := by
  simp only [← packageBeforeDot?_eq_some_iff, analyze, ← Option.eq_none_iff_forall_ne_some]
  cases packageBeforeDot? (line.take column) with
  | none => simp
  | some name => simp

/-- What a cursor replaces is the longest run of identifier characters before it. -/
theorem exists_run_analyze (line : Line) (column : Nat) :
    ∃ before run, line.take column = before ++ run ∧ IsTail before run
      ∧ (analyze line column).span = ⟨before.length, (line.take column).length⟩ := by
  obtain ⟨before, hbefore, htail⟩ := exists_isTail (line.take column)
  refine ⟨before, _, hbefore, htail, ?_⟩
  have hstart := htail.identStart_append []
  rw [List.append_nil, ← hbefore] at hstart
  simp only [span_analyze, typedSpan, hstart]

/-- After a dot nothing has been typed. -/
theorem span_analyze_of_endsInMember {line : Line} {column : Nat} {name : List Char}
    (h : EndsInMember (line.take column) name) :
    (analyze line column).span = ⟨(line.take column).length, (line.take column).length⟩ := by
  obtain ⟨before, run, hsplit, htail, hspan⟩ := exists_run_analyze line column
  obtain ⟨front, hdot, -, -⟩ := h
  have hlast : (before ++ run).getLast? = some '.' := by rw [← hsplit, hdot, List.getLast?_concat]
  cases hrun : run.getLast? with
  | none =>
      rw [hspan, hsplit, List.getLast?_eq_none_iff.mp hrun, List.append_nil]
  | some c =>
      rw [List.getLast?_append, hrun, Option.some_or, Option.some.injEq] at hlast
      have hident := htail.ident c (List.mem_of_getLast? hrun)
      rw [hlast, not_isIdentChar_dot] at hident
      cases hident

/-- A cursor is classified by the grammar, from the text before it alone. It is in member position
of a name exactly if that text ends in the name and a dot, where the name is an identifier before
which no identifier character stands; there is one such name at most, and nothing is replaced.
Otherwise the cursor is in general position and replaces the longest run of identifier characters
that ends at it. A column past the end of the line is the end. -/
theorem analyze_accepts_grammar (line : Line) (column : Nat) :
    let cursor := min column line.length
    let text := line.take cursor
    (∀ package, (analyze line column).mode = .member package ↔ EndsInMember text package.toList)
    ∧ (∀ first second, EndsInMember text first → EndsInMember text second → first = second)
    ∧ (∀ name, EndsInMember text name → (analyze line column).span = ⟨cursor, cursor⟩)
    ∧ ((∀ name, ¬EndsInMember text name) → (analyze line column).mode = .general)
    ∧ (∃ before run, text = before ++ run
      ∧ (∀ c ∈ run, isIdentChar c = true)
      ∧ (∀ other, other <:+ text → (∀ c ∈ other, isIdentChar c = true) → other <:+ run)
      ∧ (analyze line column).span = ⟨before.length, cursor⟩)
    ∧ ∀ rest, analyze (text ++ rest) cursor = analyze line column := by
  intro cursor text
  have htext : text = line.take column := List.take_eq_take_min.symm
  have hcursor : (line.take column).length = cursor := List.length_take
  refine ⟨fun package => ?_, fun _ _ => EndsInMember.unique, fun name h => ?_, fun h => ?_, ?_,
    fun rest => ?_⟩
  · rw [htext]
    exact mode_analyze_eq_member_iff
  · rw [span_analyze_of_endsInMember (htext ▸ h), hcursor]
  · exact mode_analyze_eq_general_iff.mpr (htext ▸ h)
  · obtain ⟨before, run, hsplit, htail, hspan⟩ := exists_run_analyze line column
    rw [hcursor] at hspan
    refine ⟨before, run, htext.trans hsplit, htail.ident, fun other hother hident => ?_, hspan⟩
    rw [htext, hsplit] at hother
    exact htail.suffix_tail hother hident
  · have htake : (text ++ rest).take cursor = line.take column := by
      rw [htext, ← hcursor, List.take_left]
    simp only [analyze, htake]

/-- A run that begins with a number is no identifier, and of a chain the last name counts. -/
example : (analyze ['9', 'f', '.'] 3).mode = .general
    ∧ analyze ['a', '.', 'b', '.', 'c'] 4 = ⟨.member "b", ⟨4, 4⟩⟩ := by
  decide +kernel

end GoAssist
