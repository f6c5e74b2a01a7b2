/-!
# Sets of code points

A property of characters is a table of closed ranges, in order and apart. Membership is found by
halving the table. `CodeSet.exists_range_of_mem` says that every member lies in a listed range.
-/

namespace GoAssist.Unicode

/-- A set of code points as closed ranges, sorted and apart. -/
structure CodeSet where
  /-- The first and last code point of each range. -/
  ranges : Array (Nat × Nat)

namespace CodeSet

/-- Whether one of the ranges from index `low` up to, and without, `high` holds `code`. Each step
halves the stretch, so `fuel` need not exceed its length. -/
def searchBetween (ranges : Array (Nat × Nat)) (code : Nat) : (fuel low high : Nat) → Bool
  | 0, _, _ => false
  | fuel + 1, low, high =>
    let middle := (low + high) / 2
    if high ≤ low then false
    else
      match ranges[middle]? with
      | none => false
      | some (first, last) =>
        if code < first then searchBetween ranges code fuel low middle
        else if last < code then searchBetween ranges code fuel (middle + 1) high
        else true

/-- Whether `code` is in the set. -/
def contains (set : CodeSet) (code : Nat) : Bool :=
  searchBetween set.ranges code set.ranges.size 0 set.ranges.size

theorem exists_range_of_searchBetween {ranges : Array (Nat × Nat)} {code : Nat} :
    ∀ {fuel low high : Nat}, searchBetween ranges code fuel low high = true →
      ∃ range ∈ ranges, range.1 ≤ code ∧ code ≤ range.2
  | 0, _, _, h => by simp [searchBetween] at h
  | fuel + 1, low, high, h => by
    rw [searchBetween] at h
    split at h
    · simp at h
    · split at h
      · simp at h
      · rename_i first last hrange
        split at h
        · exact exists_range_of_searchBetween h
        · split at h
          · exact exists_range_of_searchBetween h
          · exact ⟨(first, last), Array.mem_of_getElem? hrange, by simp; omega⟩

/-- A member lies in a listed range. -/
theorem exists_range_of_mem {set : CodeSet} {code : Nat} (h : set.contains code = true) :
    ∃ range ∈ set.ranges, range.1 ≤ code ∧ code ≤ range.2 :=
  exists_range_of_searchBetween h

end CodeSet

end GoAssist.Unicode
