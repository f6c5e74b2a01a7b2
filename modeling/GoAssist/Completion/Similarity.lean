/-!
# Similarity of two words

The Jaro similarity counts the characters that two words share at nearly the same place and those
of them that stand in another order. The Jaro–Winkler similarity raises it by a tenth of the
distance to one for each character of the common beginning. All arithmetic is in double precision, in
the order written.
-/

namespace GoAssist

/-- What a scan over the first word has found. -/
structure SharedChars where
  /-- The characters of the second word that have no partner yet. -/
  free : List (Option Char)
  /-- How many pairs were found. -/
  matched : Nat
  /-- How many of them stand before the pair found last. -/
  transposed : Nat
  /-- The place in the second word of the pair found last. -/
  lastPlace : Nat

/-- The first place in `free` from `low` to `high`, both included, that holds `c`. -/
def findFree (free : List (Option Char)) (c : Char) (low high : Nat) : Option Nat :=
  (((free.drop low).take (high + 1 - low)).findIdx? (· == some c)).map (low + ·)

/-- Looks for a partner of the character `c` at place `place` of the first word, at most `reach`
places away. -/
def SharedChars.step (reach : Nat) (shared : SharedChars) (place : Nat) (c : Char) :
    SharedChars :=
  let high := min (shared.free.length - 1) (place + reach)
  match findFree shared.free c (place - reach) high with
  | none => shared
  | some found =>
    { free := shared.free.set found none
      matched := shared.matched + 1
      transposed := if found < shared.lastPlace then shared.transposed + 1 else shared.transposed
      lastPlace := found }

/-- The characters that `a` shares with `b`. -/
def sharedChars (a b : List Char) : SharedChars :=
  let reach := max a.length b.length / 2 - 1
  a.zipIdx.foldl (fun shared (c, place) => shared.step reach place c) ⟨b.map some, 0, 0, 0⟩

/-- The Jaro similarity, from 0 to 1. -/
def jaro (a b : List Char) : Float :=
  match a, b with
  | [], [] => 1.0
  | [], _ => 0.0
  | _, [] => 0.0
  | [x], [y] => if x == y then 1.0 else 0.0
  | _, _ =>
    let shared := sharedChars a b
    if shared.matched = 0 then 0.0
    else
      let matched := shared.matched.toFloat
      (1.0 / 3.0) *
        (matched / a.length.toFloat + matched / b.length.toFloat
          + (matched - shared.transposed.toFloat) / matched)

/-- How many characters two words have in common at their beginning. -/
def commonLength : List Char → List Char → Nat
  | x :: a, y :: b => if x = y then commonLength a b + 1 else 0
  | _, _ => 0

/-- The Jaro–Winkler similarity, at most 1. -/
def jaroWinkler (a b : List Char) : Float :=
  let similarity := jaro a b
  let raised := similarity + 0.1 * (commonLength a b).toFloat * (1.0 - similarity)
  if raised ≤ 1.0 then raised else 1.0

end GoAssist
