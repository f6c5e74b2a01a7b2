import GoAssist.Proofs.Document.Utf16

/-!
# Sums of units in 32-bit words

Both conversions of columns add up the units of characters in 32-bit words. `wordSums` and
`charColumnSums` list what these additions come to in integers, so one of them wraps exactly if its sum
is not less than the size of a word.

Two bounds keep the sums below that. They are at most the units of the line, if these fit
(`le_of_mem_wordSums`). And a scan for a column adds only as long as less than its target has passed, so
a sum is at most one unit past the target, however long the line is (`le_of_mem_charColumnSumsFrom`); only
for the greatest word that is one too many (`size_mem_charColumnSums`). Where no sum wraps, the scan in
words is the scan in integers (`charColumnFrom_eq_exact`).
-/

namespace GoAssist

/-! ## What is added -/

/-- The sums in integers that are formed when the units of a text are added to a word. -/
def wordSums (passed : UInt32) : (text : List Char) → List Nat
  | [] => []
  | c :: rest =>
    (passed.toNat + utf16Size c) :: wordSums (passed + UInt32.ofNat (utf16Size c)) rest

/-- The sums in integers that `charColumnFrom` forms until it stops. -/
def charColumnSumsFrom (target : UInt32) (passed : UInt32) : (rest : Line) → List Nat
  | [] => []
  | c :: rest =>
    if target ≤ passed then []
    else (passed.toNat + utf16Size c) ::
      charColumnSumsFrom target (passed + UInt32.ofNat (utf16Size c)) rest

/-- The sums in integers that `charColumn` forms. -/
def charColumnSums (line : Line) (target : UInt32) : List Nat :=
  charColumnSumsFrom target 0 line

/-- The sums in integers that `utf16Column` forms. -/
def utf16ColumnSums (line : Line) (column : Nat) : List Nat :=
  wordSums 0 (line.take column)

/-- `charColumnFrom` in integers. -/
def exactCharColumnFrom (target : Nat) (passed : Nat) (column : Nat) : (rest : Line) → Nat
  | [] => column
  | c :: rest =>
    if target ≤ passed then column
    else exactCharColumnFrom target (passed + utf16Size c) (column + 1) rest

/-- `charColumn` in integers. -/
def exactCharColumn (line : Line) (target : Nat) : Nat :=
  exactCharColumnFrom target 0 0 line

theorem charColumnFrom_eq_add_length (target : UInt32) : ∀ (passed : UInt32) (column : Nat)
    (rest : Line), charColumnFrom target passed column rest
      = column + (charColumnSumsFrom target passed rest).length
  | _, _, [] => rfl
  | passed, column, c :: rest => by
      rw [charColumnFrom, charColumnSumsFrom]
      split
      · rfl
      · rw [charColumnFrom_eq_add_length target _ (column + 1) rest, List.length_cons]
        omega

theorem charColumnSumsFrom_isPrefixOf_wordSums (target : UInt32) : ∀ (passed : UInt32) (rest : Line),
    charColumnSumsFrom target passed rest <+: wordSums passed rest
  | _, [] => List.prefix_refl []
  | passed, c :: rest => by
      rw [charColumnSumsFrom, wordSums]
      split
      · exact List.nil_prefix
      · exact (List.prefix_cons_inj _).mpr (charColumnSumsFrom_isPrefixOf_wordSums target _ rest)

/-- The sums of a scan are the first ones of the line, as many as characters are passed. -/
theorem charColumnSums_eq_take (line : Line) (target : UInt32) :
    charColumnSums line target = (wordSums 0 line).take (charColumn line target) := by
  rw [charColumn, charColumnFrom_eq_add_length, Nat.zero_add]
  exact List.prefix_iff_eq_take.mp (charColumnSumsFrom_isPrefixOf_wordSums target 0 line)

/-! ## How great the sums are -/

theorem le_of_mem_wordSums {text : List Char} {passed : UInt32}
    (hfits : passed.toNat + utf16Length text < UInt32.size) :
    ∀ sum ∈ wordSums passed text, sum ≤ passed.toNat + utf16Length text := by
  induction text generalizing passed with
  | nil => exact fun _ h => absurd h List.not_mem_nil
  | cons c rest ih =>
      rw [utf16Length, ← Nat.add_assoc] at hfits ⊢
      have hpassed := toNat_add_utf16Size (Nat.lt_of_le_of_lt (Nat.le_add_right _ _) hfits)
      intro sum hsum
      rcases List.mem_cons.mp hsum with rfl | hsum
      · exact Nat.le_add_right _ _
      · -- The next word holds the sum, so what is left fits as before.
        rw [← hpassed] at hfits ⊢
        exact ih hfits sum hsum

theorem le_of_mem_wordSums_zero {text : List Char} (hfits : utf16Length text < UInt32.size) :
    ∀ sum ∈ wordSums 0 text, sum ≤ utf16Length text := by
  have hle := @le_of_mem_wordSums text 0
  rw [UInt32.toNat_zero, Nat.zero_add] at hle
  exact hle hfits

/-- The scan never gets more than one unit past its target, in a line of any length. -/
theorem le_of_mem_charColumnSumsFrom {target : UInt32} {sum : Nat} :
    ∀ {passed : UInt32} {rest : Line}, sum ∈ charColumnSumsFrom target passed rest →
      sum ≤ target.toNat + 1
  | _, [], h => absurd h List.not_mem_nil
  | passed, c :: rest, h => by
      rw [charColumnSumsFrom] at h
      split at h
      · exact absurd h List.not_mem_nil
      · rename_i hbefore
        rcases List.mem_cons.mp h with rfl | h
        · -- Less than the target has passed, and two units are added at most.
          rw [UInt32.le_iff_toNat_le] at hbefore
          have hsize := utf16Size_le_two c
          omega
        · exact le_of_mem_charColumnSumsFrom h

/-! ## Where no sum wraps -/

theorem toNat_foldl_of_wordSums {text : List Char} {passed : UInt32}
    (h : ∀ sum ∈ wordSums passed text, sum < UInt32.size) :
    (text.foldl (fun passed c => passed + UInt32.ofNat (utf16Size c)) passed).toNat
      = passed.toNat + utf16Length text := by
  induction text generalizing passed with
  | nil => rfl
  | cons c rest ih =>
      obtain ⟨hfirst, hrest⟩ := List.forall_mem_cons.mp h
      rw [List.foldl_cons, ih hrest, toNat_add_utf16Size hfirst, utf16Length, Nat.add_assoc]

theorem charColumnFrom_eq_exact {target : UInt32} : ∀ {passed : UInt32} {column : Nat} {rest : Line},
    (∀ sum ∈ charColumnSumsFrom target passed rest, sum < UInt32.size) →
      charColumnFrom target passed column rest
        = exactCharColumnFrom target.toNat passed.toNat column rest
  | _, _, [], _ => rfl
  | passed, column, c :: rest, h => by
      rw [charColumnSumsFrom] at h
      rw [charColumnFrom, exactCharColumnFrom]
      by_cases hstop : target ≤ passed
      · rw [if_pos hstop, if_pos (UInt32.le_iff_toNat_le.mp hstop)]
      · rw [if_neg hstop] at h
        obtain ⟨hfirst, hrest⟩ := List.forall_mem_cons.mp h
        rw [if_neg hstop, if_neg (mt UInt32.le_iff_toNat_le.mpr hstop), charColumnFrom_eq_exact hrest,
          toNat_add_utf16Size hfirst]

variable {line : Line} {target : UInt32}

theorem toNat_utf16Column_of_sums {column : Nat}
    (h : ∀ sum ∈ utf16ColumnSums line column, sum < UInt32.size) :
    (utf16Column line column).toNat = utf16Length (line.take column) := by
  rw [utf16Column, toNat_foldl_of_wordSums h, UInt32.toNat_zero, Nat.zero_add]

theorem charColumn_eq_exact (h : ∀ sum ∈ charColumnSums line target, sum < UInt32.size) :
    charColumn line target = exactCharColumn line target.toNat :=
  charColumnFrom_eq_exact h

/-! ## The limit -/

theorem not_greatest_le {passed : UInt32} (h : passed.toNat + 1 < UInt32.size) :
    ¬(0xFFFFFFFF : UInt32) ≤ passed := by
  have htarget : (0xFFFFFFFF : UInt32).toNat + 1 = UInt32.size := rfl
  rw [UInt32.le_iff_toNat_le]
  omega

/-- For the greatest word the unit past the target is one too many: the scan reaches a pair that begins
two units below the size of a word, and its sum does not fit. -/
theorem size_mem_charColumnSumsFrom {c : Char} (hc : utf16Size c = 2) (rest : Line) :
    ∀ {passed : UInt32} {before : List Char}, passed.toNat + utf16Length before + 2 = UInt32.size →
      UInt32.size ∈ charColumnSumsFrom 0xFFFFFFFF passed (before ++ c :: rest)
  | passed, [], h => by
      rw [utf16Length, Nat.add_zero] at h
      rw [List.nil_append, charColumnSumsFrom, if_neg (not_greatest_le (by omega)), hc, h]
      exact List.mem_cons_self
  | passed, d :: before, h => by
      rw [utf16Length] at h
      have hpassed : (passed + UInt32.ofNat (utf16Size d)).toNat = passed.toNat + utf16Size d :=
        toNat_add_utf16Size (by omega)
      rw [List.cons_append, charColumnSumsFrom, if_neg (not_greatest_le (by omega))]
      exact List.mem_cons_of_mem _ (size_mem_charColumnSumsFrom hc rest (by omega))

theorem size_mem_charColumnSums {before rest : List Char} {c : Char} (hc : utf16Size c = 2)
    (hbefore : utf16Length before + 2 = UInt32.size) :
    UInt32.size ∈ charColumnSums (before ++ c :: rest) 0xFFFFFFFF := by
  refine size_mem_charColumnSumsFrom hc rest ?_
  rwa [UInt32.toNat_zero, Nat.zero_add]

/-- The conversions of columns do not wrap. In a line whose units fit into a word every sum fits,
whatever the column, and the columns are those in integers. In a line of any length a scan for a column
gets one unit past the column at most; so for every column but the greatest word every sum fits, and the
column is the one in integers. -/
theorem columns_never_wrap (line : Line) :
    ((utf16 line).length < UInt32.size →
      (∀ target : UInt32, (∀ sum ∈ charColumnSums line target, sum < UInt32.size)
        ∧ charColumn line target = exactCharColumn line target.toNat)
      ∧ ∀ column : Nat, (∀ sum ∈ utf16ColumnSums line column, sum < UInt32.size)
        ∧ (utf16Column line column).toNat = utf16Length (line.take column))
    ∧ ∀ target : UInt32, target.toNat + 1 < UInt32.size →
        (∀ sum ∈ charColumnSums line target, sum ≤ target.toNat + 1 ∧ sum < UInt32.size)
        ∧ charColumn line target = exactCharColumn line target.toNat := by
  rw [length_utf16]
  refine ⟨fun hfits => ⟨fun target => ?_, fun column => ?_⟩, fun target htarget => ?_⟩
  · have hsums : ∀ sum ∈ charColumnSums line target, sum < UInt32.size := by
      intro sum hsum
      rw [charColumnSums_eq_take] at hsum
      exact Nat.lt_of_le_of_lt (le_of_mem_wordSums_zero hfits sum (List.mem_of_mem_take hsum)) hfits
    exact ⟨hsums, charColumn_eq_exact hsums⟩
  · have htake := Nat.lt_of_le_of_lt (utf16Length_take_le line column) hfits
    have hsums : ∀ sum ∈ utf16ColumnSums line column, sum < UInt32.size := by
      intro sum hsum
      exact Nat.lt_of_le_of_lt (le_of_mem_wordSums_zero htake sum hsum) htake
    exact ⟨hsums, toNat_utf16Column_of_sums hsums⟩
  · have hsums : ∀ sum ∈ charColumnSums line target, sum ≤ target.toNat + 1 ∧ sum < UInt32.size := by
      intro sum hsum
      have hle := le_of_mem_charColumnSumsFrom hsum
      exact ⟨hle, Nat.lt_of_le_of_lt hle htarget⟩
    exact ⟨hsums, charColumn_eq_exact fun sum hsum => (hsums sum hsum).2⟩

/-- The greatest word and the word before it, as an editor sends them for the end of the line. -/
theorem columns_never_wrap_past_pair :
    let line : Line := ['a', '😀', 'ß']
    (utf16 line).length < UInt32.size ∧ (0xFFFFFFFE : UInt32).toNat + 1 < UInt32.size
    ∧ charColumnSums line 0xFFFFFFFF = [1, 3, 4]
    ∧ (∀ sum ∈ [1, 3, 4], sum < UInt32.size)
    ∧ charColumn line 0xFFFFFFFF = 3 ∧ charColumn line 0xFFFFFFFE = 3
    ∧ (utf16Column line 2).toNat = 3 := by
  intro line
  have hfits : (utf16 line).length < UInt32.size := by decide
  have htarget : (0xFFFFFFFE : UInt32).toNat + 1 < UInt32.size := by decide
  have hlisted : charColumnSums line 0xFFFFFFFF = [1, 3, 4] := by decide
  obtain ⟨hline, hany⟩ := columns_never_wrap line
  obtain ⟨hsums, hcolumn⟩ := (hline hfits).1 0xFFFFFFFF
  refine ⟨hfits, htarget, hlisted, hlisted ▸ hsums, hcolumn.trans ?_,
    (hany 0xFFFFFFFE htarget).2.trans ?_, ((hline hfits).2 2).2.trans ?_⟩
  · decide
  · decide
  · decide

end GoAssist
