import GoAssist.Document.Column

/-!
# Columns against the UTF-16 encoding

`utf16` encodes a text, a character beyond the basic plane as a surrogate pair, and a column of an
editor is a place in the encoded line. The two column functions agree with the encoding as long as
the places fit into 32 bits: `toNat_utf16Column` for the way out and `charColumn_le_iff` for the way
in, which says that `charColumn` is the least column that does not begin before its target. Its values
past the end of the line and inside a pair are read off that equivalence. Where its target begins a
character it needs no bound on the line at all, as the scan stops there (`charColumn_append`).
-/

namespace GoAssist

/-! ## The encoding -/

/-- The UTF-16 units of a character. -/
def utf16Units (c : Char) : List UInt16 :=
  if c.toNat < 0x10000 then [UInt16.ofNat c.toNat]
  else
    [UInt16.ofNat (0xD800 + (c.toNat - 0x10000) / 0x400),
      UInt16.ofNat (0xDC00 + (c.toNat - 0x10000) % 0x400)]

/-- The UTF-16 encoding of a text. -/
def utf16 (text : List Char) : List UInt16 :=
  text.flatMap utf16Units

/-- The units of an encoded line from one place up to, and without, another. -/
def utf16Slice (line : Line) (start stop : UInt32) : List UInt16 :=
  ((utf16 line).drop start.toNat).take (stop.toNat - start.toNat)

theorem utf16_append (first second : List Char) :
    utf16 (first ++ second) = utf16 first ++ utf16 second :=
  List.flatMap_append

theorem length_utf16Units (c : Char) : (utf16Units c).length = utf16Size c := by
  rw [utf16Units, utf16Size]
  split <;> rfl

theorem utf16Size_pos (c : Char) : 0 < utf16Size c := by
  rw [utf16Size]
  split <;> omega

theorem utf16Size_le_two (c : Char) : utf16Size c ≤ 2 := by
  rw [utf16Size]
  split <;> omega

theorem length_utf16 (text : List Char) : (utf16 text).length = utf16Length text := by
  induction text with
  | nil => rfl
  | cons c rest ih =>
      rw [utf16, List.flatMap_cons, List.length_append, length_utf16Units, utf16Length]
      exact congrArg (utf16Size c + ·) ih

theorem utf16Length_append (first second : List Char) :
    utf16Length (first ++ second) = utf16Length first + utf16Length second := by
  rw [← length_utf16, utf16_append, List.length_append, length_utf16, length_utf16]

theorem utf16Length_replicate (n : Nat) (c : Char) :
    utf16Length (List.replicate n c) = n * utf16Size c := by
  induction n with
  | zero => rw [List.replicate_zero, utf16Length, Nat.zero_mul]
  | succ n ih => rw [List.replicate_succ, utf16Length, ih, Nat.succ_mul, Nat.add_comm]

theorem utf16Length_pos {text : List Char} (h : text ≠ []) : 0 < utf16Length text := by
  obtain ⟨c, rest, rfl⟩ := List.exists_cons_of_ne_nil h
  exact Nat.lt_of_lt_of_le (utf16Size_pos c) (Nat.le_add_right _ _)

theorem utf16Length_le_append (first second : List Char) :
    utf16Length first ≤ utf16Length (first ++ second) := by
  rw [utf16Length_append]
  exact Nat.le_add_right _ _

theorem utf16Length_take_le (line : Line) (column : Nat) :
    utf16Length (line.take column) ≤ utf16Length line := by
  have hle := utf16Length_le_append (line.take column) (line.drop column)
  rwa [List.take_append_drop] at hle

/-- A character further takes a unit at least. -/
theorem utf16Length_take_lt {line : Line} {column further : Nat} (hlt : column < further)
    (hle : further ≤ line.length) :
    utf16Length (line.take column) < utf16Length (line.take further) := by
  have hpos : 0 < utf16Length ((line.take further).drop column) := by
    refine utf16Length_pos fun hnil => ?_
    have := congrArg List.length hnil
    simp only [List.length_drop, List.length_take, List.length_nil] at this
    omega
  have hsplit := utf16Length_append ((line.take further).take column)
    ((line.take further).drop column)
  rw [List.take_append_drop, List.take_take, Nat.min_eq_left (Nat.le_of_lt hlt)] at hsplit
  omega

/-! ## From characters to units -/

theorem foldl_utf16Size (text : List Char) (passed : Nat) :
    text.foldl (fun passed c => passed + UInt32.ofNat (utf16Size c)) (UInt32.ofNat passed)
      = UInt32.ofNat (passed + utf16Length text) := by
  induction text generalizing passed with
  | nil => rfl
  | cons c rest ih => rw [List.foldl_cons, ← UInt32.ofNat_add, ih, utf16Length, Nat.add_assoc]

/-- A column in units counts the units before it, in 32-bit words. -/
theorem utf16Column_eq (line : Line) (column : Nat) :
    utf16Column line column = UInt32.ofNat (utf16Length (line.take column)) := by
  have h := foldl_utf16Size (line.take column) 0
  rw [Nat.zero_add] at h
  exact h

theorem utf16Column_append (before rest : List Char) :
    utf16Column (before ++ rest) before.length = UInt32.ofNat (utf16Length before) := by
  rw [utf16Column_eq, List.take_left]

theorem toNat_utf16Column {line : Line} {column : Nat}
    (hfits : utf16Length (line.take column) < UInt32.size) :
    (utf16Column line column).toNat = utf16Length (line.take column) := by
  rw [utf16Column_eq, UInt32.toNat_ofNat_of_lt' hfits]

/-- Places of an encoded line are ordered as the characters that begin there. -/
theorem utf16Column_le_iff {line : Line} (hfits : utf16Length line < UInt32.size)
    {column further : Nat} (hcolumn : column ≤ line.length) (hfurther : further ≤ line.length) :
    utf16Column line column ≤ utf16Column line further ↔ column ≤ further := by
  have hfit : ∀ column, utf16Length (line.take column) < UInt32.size :=
    fun column => Nat.lt_of_le_of_lt (utf16Length_take_le line column) hfits
  rw [UInt32.le_iff_toNat_le, toNat_utf16Column (hfit column), toNat_utf16Column (hfit further)]
  constructor
  · exact fun h => Nat.le_of_not_lt fun hlt =>
      Nat.not_lt_of_le h (utf16Length_take_lt hlt hcolumn)
  · intro h
    rcases Nat.lt_or_eq_of_le h with hlt | rfl
    · exact Nat.le_of_lt (utf16Length_take_lt hlt hfurther)
    · exact Nat.le_refl _

/-- The places where a part of a line begins and ends, if they fit into 32 bits. -/
theorem toNat_places_of_cut {before part : List Char}
    (hfits : utf16Length (before ++ part) < UInt32.size) :
    (UInt32.ofNat (utf16Length before)).toNat = utf16Length before
    ∧ (UInt32.ofNat (utf16Length (before ++ part))).toNat = utf16Length (before ++ part) :=
  ⟨UInt32.toNat_ofNat_of_lt' (Nat.lt_of_le_of_lt (utf16Length_le_append before part) hfits),
    UInt32.toNat_ofNat_of_lt' hfits⟩

/-- A part of a line does not end before it begins. -/
theorem places_le_of_cut {before part : List Char}
    (hfits : utf16Length (before ++ part) < UInt32.size) :
    UInt32.ofNat (utf16Length before) ≤ UInt32.ofNat (utf16Length (before ++ part)) := by
  obtain ⟨hstart, hstop⟩ := toNat_places_of_cut hfits
  rw [UInt32.le_iff_toNat_le, hstart, hstop]
  exact utf16Length_le_append before part

/-- A part of a line that holds a character ends after it begins. -/
theorem places_lt_of_cut {before part : List Char}
    (hfits : utf16Length (before ++ part) < UInt32.size) (hne : part ≠ []) :
    UInt32.ofNat (utf16Length before) < UInt32.ofNat (utf16Length (before ++ part)) := by
  obtain ⟨hstart, hstop⟩ := toNat_places_of_cut hfits
  rw [UInt32.lt_iff_toNat_lt, hstart, hstop, utf16Length_append]
  exact Nat.lt_add_of_pos_right (utf16Length_pos hne)

/-- Between the places where a part of a line begins and ends stands the encoding of the part, if
these places fit into 32 bits. -/
theorem utf16Slice_of_cut {before part : List Char}
    (hfits : utf16Length (before ++ part) < UInt32.size) (rest : List Char) :
    utf16Slice (before ++ part ++ rest) (UInt32.ofNat (utf16Length before))
      (UInt32.ofNat (utf16Length (before ++ part))) = utf16 part := by
  obtain ⟨hstart, hstop⟩ := toNat_places_of_cut hfits
  rw [utf16Slice, hstart, hstop, utf16Length_append, Nat.add_sub_cancel_left,
    ← length_utf16 before, ← length_utf16 part, List.append_assoc, utf16_append, List.drop_left,
    utf16_append, List.take_left]

/-! ## From units to characters -/

theorem toNat_add_utf16Size {passed : UInt32} {c : Char}
    (h : passed.toNat + utf16Size c < UInt32.size) :
    (passed + UInt32.ofNat (utf16Size c)).toNat = passed.toNat + utf16Size c := by
  have hsize : utf16Size c < UInt32.size := Nat.lt_of_le_of_lt (Nat.le_add_left _ _) h
  rw [UInt32.toNat_add, UInt32.toNat_ofNat_of_lt' hsize, Nat.mod_eq_of_lt h]

/-- A target where a character begins is found at the character, in a line of any length. -/
theorem charColumnFrom_append {target : UInt32} (rest : Line) :
    ∀ {passed : UInt32} {column : Nat} {before : List Char},
      target.toNat = passed.toNat + utf16Length before →
        charColumnFrom target passed column (before ++ rest) = column + before.length
  | passed, column, [], h => by
      have hreached : target ≤ passed := UInt32.le_iff_toNat_le.mpr (Nat.le_of_eq h)
      cases rest with
      | nil => rfl
      | cons c rest =>
          rw [List.nil_append, charColumnFrom, if_pos hreached]
          rfl
  | passed, column, c :: before, h => by
      rw [utf16Length, ← Nat.add_assoc] at h
      -- What is added stays below the target, so it does not wrap.
      have hle : passed.toNat + utf16Size c ≤ target.toNat := h ▸ Nat.le_add_right _ _
      have hpassed := toNat_add_utf16Size (Nat.lt_of_le_of_lt hle target.toNat_lt_size)
      have hbefore : ¬target ≤ passed := by
        have hpos := utf16Size_pos c
        rw [UInt32.le_iff_toNat_le]
        omega
      rw [List.cons_append, charColumnFrom, if_neg hbefore,
        charColumnFrom_append rest (by rw [hpassed]; exact h), List.length_cons]
      omega

theorem le_charColumnFrom (target passed : UInt32) (column : Nat) :
    ∀ rest : Line, column ≤ charColumnFrom target passed column rest
  | [] => Nat.le_refl column
  | c :: rest => by
      rw [charColumnFrom]
      split
      · exact Nat.le_refl column
      · exact Nat.le_of_succ_le (le_charColumnFrom target _ (column + 1) rest)

theorem charColumnFrom_le (target : UInt32) : ∀ (passed : UInt32) (column : Nat) (rest : Line),
    charColumnFrom target passed column rest ≤ column + rest.length
  | _, column, [] => Nat.le_refl column
  | passed, column, c :: rest => by
      rw [charColumnFrom]
      split
      · exact Nat.le_add_right column _
      · have := charColumnFrom_le target (passed + UInt32.ofNat (utf16Size c)) (column + 1) rest
        rw [List.length_cons]
        omega

theorem charColumn_le_length (line : Line) (target : UInt32) :
    charColumn line target ≤ line.length := by
  have := charColumnFrom_le target 0 0 line
  rwa [Nat.zero_add] at this

/-- The scan stops at or before a character exactly if the target is not after it. -/
theorem charColumnFrom_le_iff (target : UInt32) : ∀ (rest : Line) (passed column further : Nat),
    passed + utf16Length rest < UInt32.size → further < rest.length →
      (charColumnFrom target (UInt32.ofNat passed) column rest ≤ column + further
        ↔ target.toNat ≤ passed + utf16Length (rest.take further))
  | [], _, _, _, _, hlt => absurd hlt (Nat.not_lt_zero _)
  | c :: rest, passed, column, further, hfits, hlt => by
      rw [utf16Length] at hfits
      have hpassed : target ≤ UInt32.ofNat passed ↔ target.toNat ≤ passed := by
        rw [UInt32.le_iff_toNat_le,
          UInt32.toNat_ofNat_of_lt' (Nat.lt_of_le_of_lt (Nat.le_add_right _ _) hfits)]
      rw [charColumnFrom]
      by_cases hstop : target.toNat ≤ passed
      · rw [if_pos (hpassed.mpr hstop)]
        exact ⟨fun _ => Nat.le_add_right_of_le hstop, fun _ => Nat.le_add_right column further⟩
      · rw [if_neg (mt hpassed.mp hstop), ← UInt32.ofNat_add]
        cases further with
        | zero =>
            have hge := le_charColumnFrom target (UInt32.ofNat (passed + utf16Size c)) (column + 1)
              rest
            simp only [List.take_zero, utf16Length]
            omega
        | succ further =>
            have ih := charColumnFrom_le_iff target rest (passed + utf16Size c) (column + 1) further
              (by omega) (Nat.lt_of_succ_lt_succ hlt)
            rw [List.take_succ_cons, utf16Length, ← Nat.add_assoc passed, ← ih,
              Nat.add_assoc column, Nat.add_comm 1 further]

variable {line : Line} {target : UInt32}

/-- The column of a target is the first character that does not begin before it. -/
theorem charColumn_le_iff (hfits : utf16Length line < UInt32.size) {column : Nat}
    (hcolumn : column < line.length) :
    charColumn line target ≤ column ↔ target.toNat ≤ utf16Length (line.take column) := by
  have h := charColumnFrom_le_iff target line 0 0 column (by rwa [Nat.zero_add]) hcolumn
  rw [Nat.zero_add, Nat.zero_add] at h
  exact h

/-- What is needed to know the column of a target: the characters before it begin before the target,
and it is at or after the target unless it is the end. -/
theorem charColumn_eq_of (hfits : utf16Length line < UInt32.size) {column : Nat}
    (hle : column ≤ line.length)
    (hbefore : ∀ earlier < column, utf16Length (line.take earlier) < target.toNat)
    (hat : column = line.length ∨ target.toNat ≤ utf16Length (line.take column)) :
    charColumn line target = column := by
  apply Nat.le_antisymm
  · rcases hat with hend | hat
    · exact hend ▸ charColumn_le_length line target
    · rcases Nat.lt_or_eq_of_le hle with hlt | hend
      · exact (charColumn_le_iff hfits hlt).mpr hat
      · exact hend ▸ charColumn_le_length line target
  · refine Nat.le_of_not_lt fun hlt => ?_
    have hreached := (charColumn_le_iff hfits (Nat.lt_of_lt_of_le hlt hle)).mp (Nat.le_refl _)
    exact Nat.not_lt_of_le hreached (hbefore _ hlt)

theorem charColumn_append {before : List Char} (rest : Line)
    (htarget : target.toNat = utf16Length before) :
    charColumn (before ++ rest) target = before.length := by
  rw [charColumn, charColumnFrom_append rest (by rwa [UInt32.toNat_zero, Nat.zero_add]),
    Nat.zero_add]

theorem charColumn_of_boundary {column : Nat} (hle : column ≤ line.length)
    (htarget : target.toNat = utf16Length (line.take column)) : charColumn line target = column := by
  have h := charColumn_append (line.drop column) htarget
  rwa [List.take_append_drop, List.length_take, Nat.min_eq_left hle] at h

theorem charColumn_utf16Column (hfits : utf16Length line < UInt32.size) {column : Nat}
    (hle : column ≤ line.length) : charColumn line (utf16Column line column) = column :=
  charColumn_of_boundary hle
    (toNat_utf16Column (Nat.lt_of_le_of_lt (utf16Length_take_le line column) hfits))

/-- A target at or past the end of the line is found at its end. -/
theorem charColumn_of_length_le (hfits : utf16Length line < UInt32.size)
    (htarget : utf16Length line ≤ target.toNat) : charColumn line target = line.length := by
  refine charColumn_eq_of hfits (Nat.le_refl _) (fun earlier hlt => ?_) (.inl rfl)
  have := utf16Length_take_lt hlt (Nat.le_refl _)
  rw [List.take_length] at this
  omega

/-- A target after the beginning of a character, and not after its end, is found at its end. -/
theorem charColumn_of_within {before rest : List Char} {c : Char}
    (hfits : utf16Length (before ++ c :: rest) < UInt32.size)
    (hafter : utf16Length before < target.toNat)
    (hend : target.toNat ≤ utf16Length before + utf16Size c) :
    charColumn (before ++ c :: rest) target = before.length + 1 := by
  have htake : (before ++ c :: rest).take (before.length + 1) = before ++ [c] := by
    rw [List.append_cons, List.take_left' (by simp)]
  refine charColumn_eq_of hfits (by simp) (fun earlier hlt => ?_) (.inr ?_)
  · rw [List.take_append_of_le_length (Nat.le_of_lt_succ hlt)]
    exact Nat.lt_of_le_of_lt (utf16Length_take_le before earlier) hafter
  · rw [htake, utf16Length_append, utf16Length, utf16Length, Nat.add_zero]
    exact hend

end GoAssist
