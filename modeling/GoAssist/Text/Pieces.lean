/-!
# Pieces between separators

A text is cut at every separator. The pieces hold no separator (`not_mem_of_mem_pieces`), and
writing separators between them gives the text again (`intercalate_pieces`). So the pieces of a
text that begins with a known piece are that piece and the pieces of the rest
(`pieces_append_cons`).
-/

namespace GoAssist

/-- The pieces of a text between its separators; at least one. -/
def pieces (separator : Char) : List Char → List (List Char)
  | [] => [[]]
  | c :: rest =>
    if c = separator then [] :: pieces separator rest
    else
      match pieces separator rest with
      | [] => [[c]]
      | piece :: others => (c :: piece) :: others

/-! ## Cutting -/

theorem pieces_ne_nil (separator : Char) (text : List Char) : pieces separator text ≠ [] := by
  cases text with
  | nil => simp [pieces]
  | cons c rest =>
    rw [pieces]
    split
    · simp
    · split <;> simp

theorem pieces_cons_self (separator : Char) (rest : List Char) :
    pieces separator (separator :: rest) = [] :: pieces separator rest := by
  rw [pieces, if_pos rfl]

/-- A character that is no separator joins the first piece of the rest. -/
theorem pieces_cons_of_ne {separator c : Char} {rest piece : List Char} {others : List (List Char)}
    (hne : c ≠ separator) (hrest : pieces separator rest = piece :: others) :
    pieces separator (c :: rest) = (c :: piece) :: others := by
  rw [pieces, if_neg hne, hrest]

/-- A text without separators is one piece. -/
theorem pieces_of_not_mem {separator : Char} :
    ∀ {text : List Char}, separator ∉ text → pieces separator text = [text]
  | [], _ => rfl
  | c :: rest, h => by
      obtain ⟨hne, hrest⟩ := not_or.mp (mt List.mem_cons.mpr h)
      exact pieces_cons_of_ne (Ne.symm hne) (pieces_of_not_mem hrest)

/-- A separator ends the piece before it. -/
theorem pieces_append_cons {separator : Char} (rest : List Char) :
    ∀ {piece : List Char}, separator ∉ piece →
      pieces separator (piece ++ separator :: rest) = piece :: pieces separator rest
  | [], _ => pieces_cons_self separator rest
  | c :: piece, h => by
      obtain ⟨hne, hpiece⟩ := not_or.mp (mt List.mem_cons.mpr h)
      exact pieces_cons_of_ne (Ne.symm hne) (pieces_append_cons rest hpiece)

/-! ## What the pieces are -/

/-- No piece holds a separator. -/
theorem not_mem_of_mem_pieces {separator : Char} {text piece : List Char}
    (h : piece ∈ pieces separator text) : separator ∉ piece := by
  induction text generalizing piece with
  | nil =>
    rw [pieces, List.mem_singleton] at h
    simp [h]
  | cons c rest ih =>
    obtain ⟨first, others, hrest⟩ := List.exists_cons_of_ne_nil (pieces_ne_nil separator rest)
    by_cases hc : c = separator
    · subst hc
      rw [pieces_cons_self, List.mem_cons] at h
      rcases h with rfl | h
      · exact List.not_mem_nil
      · exact ih h
    · rw [pieces_cons_of_ne hc hrest, List.mem_cons] at h
      rcases h with rfl | h
      · exact fun hmem => (List.mem_cons.mp hmem).elim (fun heq => hc heq.symm)
          (ih (hrest ▸ List.mem_cons_self))
      · exact ih (hrest ▸ List.mem_cons_of_mem _ h)

/-- Writing separators between the pieces gives the text. -/
theorem intercalate_pieces (separator : Char) (text : List Char) :
    [separator].intercalate (pieces separator text) = text := by
  induction text with
  | nil => simp [pieces]
  | cons c rest ih =>
    obtain ⟨first, others, hrest⟩ := List.exists_cons_of_ne_nil (pieces_ne_nil separator rest)
    by_cases hc : c = separator
    · subst hc
      rw [pieces_cons_self, hrest]
      rw [hrest] at ih
      simp [List.intercalate, List.intersperse] at ih ⊢
      exact ih
    · rw [pieces_cons_of_ne hc hrest]
      rw [hrest] at ih
      cases others with
      | nil => simpa [List.intercalate] using ih
      | cons second others => simpa [List.intercalate, List.intersperse] using ih

/-- There is one piece more than there are separators. -/
theorem length_pieces (separator : Char) (text : List Char) :
    (pieces separator text).length = text.count separator + 1 := by
  induction text with
  | nil => rfl
  | cons c rest ih =>
    obtain ⟨first, others, hrest⟩ := List.exists_cons_of_ne_nil (pieces_ne_nil separator rest)
    by_cases hc : c = separator
    · subst hc
      rw [pieces_cons_self, List.length_cons, ih, List.count_cons_self]
    · rw [pieces_cons_of_ne hc hrest, List.count_cons_of_ne hc, ← ih, hrest]
      rfl

end GoAssist
