import GoAssist.Proofs.Document.Utf16
import Mathlib.Order.Bounds.Defs

/-!
# Columns as an adjoint pair

A place of an encoded line is a boundary, where a character begins or the line ends (`IsBoundary`), or
lies inside a surrogate pair (`IsInsidePair`), or past the end of the line; there is no fourth kind
(`isBoundary_or_isInsidePair`). The two conversions of columns are adjoint: a target is found at or
before a character exactly if it is not after the place of the character
(`charColumn_le_iff_le_utf16Column`). So they keep the order, and going to characters and back again
leads to the least boundary that is not before the target (`isLeast_boundary`): a boundary stays, and
the inside of a pair goes to the end of the pair.
-/

namespace GoAssist

variable {line : Line}

/-! ## Kinds of places -/

/-- A place where a character begins or the line ends. -/
def IsBoundary (line : Line) (place : Nat) : Prop :=
  ∃ before rest, line = before ++ rest ∧ (utf16 before).length = place

/-- A place between the two units of a character. -/
def IsInsidePair (line : Line) (place : Nat) : Prop :=
  ∃ before c rest, line = before ++ c :: rest ∧ (utf16Units c).length = 2
    ∧ place = (utf16 before).length + 1

theorem isBoundary_iff {place : Nat} :
    IsBoundary line place ↔ ∃ column ≤ line.length, utf16Length (line.take column) = place := by
  constructor
  · rintro ⟨before, rest, rfl, rfl⟩
    refine ⟨before.length, ?_, ?_⟩
    · rw [List.length_append]
      exact Nat.le_add_right _ _
    · rw [List.take_left, length_utf16]
  · rintro ⟨column, -, rfl⟩
    exact ⟨line.take column, line.drop column, (List.take_append_drop column line).symm,
      length_utf16 _⟩

theorem IsBoundary.cons {c : Char} {rest : Line} {place : Nat} (h : IsBoundary rest place) :
    IsBoundary (c :: rest) (utf16Size c + place) := by
  obtain ⟨before, after, rfl, rfl⟩ := h
  refine ⟨c :: before, after, rfl, ?_⟩
  rw [length_utf16, length_utf16, utf16Length]

theorem IsInsidePair.cons {c : Char} {rest : Line} {place : Nat} (h : IsInsidePair rest place) :
    IsInsidePair (c :: rest) (utf16Size c + place) := by
  obtain ⟨before, d, after, rfl, hd, rfl⟩ := h
  refine ⟨c :: before, d, after, rfl, hd, ?_⟩
  rw [length_utf16, length_utf16, utf16Length, Nat.add_assoc]

/-- Every place up to the end of the line is of one of the two kinds. -/
theorem isBoundary_or_isInsidePair {place : Nat} (h : place ≤ utf16Length line) :
    IsBoundary line place ∨ IsInsidePair line place := by
  induction line generalizing place with
  | nil => exact .inl ⟨[], [], rfl, (Nat.le_zero.mp h).symm⟩
  | cons c rest ih =>
      rw [utf16Length] at h
      rcases Nat.lt_or_ge place (utf16Size c) with hlt | hge
      · cases place with
        | zero => exact .inl ⟨[], c :: rest, rfl, rfl⟩
        | succ place =>
            -- A character has two units at most, so this is the place between them.
            have hsize := utf16Size_le_two c
            refine .inr ⟨[], c, rest, rfl, ?_, ?_⟩
            · rw [length_utf16Units]
              omega
            · rw [utf16, List.flatMap_nil, List.length_nil]
              omega
      · obtain ⟨further, rfl⟩ := Nat.exists_eq_add_of_le hge
        exact (ih (Nat.le_of_add_le_add_left h)).imp .cons .cons

/-! ## There and back -/

section

variable (hfits : utf16Length line < UInt32.size)

include hfits

theorem toNat_utf16Column_of_fits (column : Nat) :
    (utf16Column line column).toNat = utf16Length (line.take column) :=
  toNat_utf16Column (Nat.lt_of_le_of_lt (utf16Length_take_le line column) hfits)

/-- A target is found at or before a character exactly if it is not after its place. -/
theorem charColumn_le_iff_le_utf16Column {column : Nat} (hcolumn : column < line.length)
    (target : UInt32) : charColumn line target ≤ column ↔ target ≤ utf16Column line column := by
  rw [charColumn_le_iff hfits hcolumn, UInt32.le_iff_toNat_le, toNat_utf16Column_of_fits hfits]

theorem charColumn_utf16Column_eq_min (column : Nat) :
    charColumn line (utf16Column line column) = min column line.length := by
  rcases Nat.le_total column line.length with hle | hge
  · rw [charColumn_utf16Column hfits hle, Nat.min_eq_left hle]
  · rw [Nat.min_eq_right hge, utf16Column, List.take_of_length_le hge]
    have hend := charColumn_utf16Column hfits (Nat.le_refl line.length)
    rwa [utf16Column, List.take_length] at hend

theorem charColumn_mono {target further : UInt32} (h : target ≤ further) :
    charColumn line target ≤ charColumn line further := by
  rcases Nat.lt_or_eq_of_le (charColumn_le_length line further) with hlt | hend
  · rw [charColumn_le_iff_le_utf16Column hfits hlt]
    exact UInt32.le_trans h ((charColumn_le_iff_le_utf16Column hfits hlt _).mp (Nat.le_refl _))
  · rw [hend]
    exact charColumn_le_length line target

theorem utf16Column_mono {column further : Nat} (h : column ≤ further) :
    utf16Column line column ≤ utf16Column line further := by
  rw [UInt32.le_iff_toNat_le, toNat_utf16Column_of_fits hfits, toNat_utf16Column_of_fits hfits,
    ← Nat.min_eq_left h, ← List.take_take]
  exact utf16Length_take_le _ column

/-- Back from the column of a target is the least boundary that is not before it. -/
theorem isLeast_boundary {target : UInt32} (htarget : target.toNat ≤ utf16Length line) :
    IsLeast {place | IsBoundary line place ∧ target.toNat ≤ place}
      (utf16Column line (charColumn line target)).toNat := by
  rw [toNat_utf16Column_of_fits hfits]
  have hle := charColumn_le_length line target
  refine ⟨⟨isBoundary_iff.mpr ⟨_, hle, rfl⟩, ?_⟩, ?_⟩
  · rcases Nat.lt_or_eq_of_le hle with hlt | hend
    · exact (charColumn_le_iff hfits hlt).mp (Nat.le_refl _)
    · rwa [hend, List.take_length]
  · rintro place ⟨hboundary, hplace⟩
    obtain ⟨column, hcolumn, rfl⟩ := isBoundary_iff.mp hboundary
    have hfound : charColumn line target ≤ column := by
      rcases Nat.lt_or_eq_of_le hcolumn with hlt | rfl
      · exact (charColumn_le_iff hfits hlt).mpr hplace
      · exact hle
    rw [← Nat.min_eq_left hfound, ← List.take_take]
    exact utf16Length_take_le _ _

/-- A target at a boundary is its own place. -/
theorem utf16Column_charColumn_of_isBoundary {target : UInt32}
    (h : IsBoundary line target.toNat) : utf16Column line (charColumn line target) = target := by
  obtain ⟨column, hcolumn, htarget⟩ := isBoundary_iff.mp h
  rw [charColumn_of_boundary hcolumn htarget.symm]
  exact UInt32.toNat_inj.mp ((toNat_utf16Column_of_fits hfits column).trans htarget)

/-- A target inside a pair goes to the end of the pair. -/
theorem utf16Column_charColumn_of_isInsidePair {target : UInt32}
    (h : IsInsidePair line target.toNat) :
    (utf16Column line (charColumn line target)).toNat = target.toNat + 1 := by
  obtain ⟨before, c, rest, rfl, hpair, htarget⟩ := h
  rw [length_utf16Units] at hpair
  rw [length_utf16] at htarget
  rw [charColumn_of_within hfits (by omega) (by omega), toNat_utf16Column_of_fits hfits,
    List.append_cons, List.take_left' (by simp), utf16Length_append, utf16Length, utf16Length]
  omega

end

/-- Characters and UTF-16 units count columns alike up to rounding: the way out is undone by the way
in, each keeps the order and the two are adjoint, and the way in and out again leads to the least
boundary that is not before the target, or to the end of the line if the target is past it. So it moves
a target past the end only, or inside a pair, and there by one unit. -/
theorem columns_adjoint (line : Line) (hfits : (utf16 line).length < UInt32.size) :
    (∀ column, charColumn line (utf16Column line column) = min column line.length)
    ∧ (∀ column < line.length, ∀ target,
        charColumn line target ≤ column ↔ target ≤ utf16Column line column)
    ∧ (∀ target further, target ≤ further → charColumn line target ≤ charColumn line further)
    ∧ (∀ column further, column ≤ further → utf16Column line column ≤ utf16Column line further)
    ∧ ∀ target : UInt32,
        let place := utf16Column line (charColumn line target)
        (target.toNat ≤ (utf16 line).length →
          IsLeast {place | IsBoundary line place ∧ target.toNat ≤ place} place.toNat)
        ∧ ((utf16 line).length < target.toNat → place.toNat = (utf16 line).length)
        ∧ (IsInsidePair line target.toNat → place.toNat = target.toNat + 1)
        ∧ (place ≠ target →
            (utf16 line).length < target.toNat ∨ IsInsidePair line target.toNat) := by
  rw [length_utf16] at hfits ⊢
  refine ⟨charColumn_utf16Column_eq_min hfits,
    fun column => charColumn_le_iff_le_utf16Column hfits, fun _ _ => charColumn_mono hfits,
    fun _ _ => utf16Column_mono hfits, fun target => ⟨isLeast_boundary hfits, fun hpast => ?_,
      utf16Column_charColumn_of_isInsidePair hfits, fun hmoved => ?_⟩⟩
  · rw [charColumn_of_length_le hfits (Nat.le_of_lt hpast), toNat_utf16Column_of_fits hfits,
      List.take_length]
  · refine (Nat.lt_or_ge _ _).imp_right fun hle => ?_
    exact (isBoundary_or_isInsidePair hle).resolve_left fun hboundary =>
      hmoved (utf16Column_charColumn_of_isBoundary hfits hboundary)

/-- Between two pairs, inside the second of them and past the end of the line. -/
theorem columns_adjoint_two_pairs :
    let line : Line := ['a', '😀', '😀', 'ß']
    (utf16 line).length < UInt32.size
    ∧ charColumn line (utf16Column line 9) = 4
    ∧ (charColumn line 3 ≤ 2 ↔ 3 ≤ utf16Column line 2)
    ∧ (utf16Column line (charColumn line 4)).toNat = 5
    ∧ (utf16Column line (charColumn line 9)).toNat = 6 := by
  intro line
  have hfits : (utf16 line).length < UInt32.size := by decide
  obtain ⟨hback, hadjoint, -, -, hplace⟩ := columns_adjoint line hfits
  have hinside : IsInsidePair line (4 : UInt32).toNat := ⟨['a', '😀'], '😀', ['ß'], rfl, rfl, rfl⟩
  exact ⟨hfits, hback 9, hadjoint 2 (by decide) 3, (hplace 4).2.2.1 hinside,
    (hplace 9).2.1 (by decide)⟩

end GoAssist
