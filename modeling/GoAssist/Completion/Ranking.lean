import GoAssist.Completion.Candidate
import GoAssist.Completion.Similarity
import GoAssist.Unicode.Lowercase

/-!
# Ranking by a typed word

Candidates that begin with the typed word come first, then similar ones, the most similar first;
all others are dropped. Case does not count, and equal matches keep their order. An empty word
leaves the list as it is (`rank_nil`); any other gives at most `maxRanked` candidates
(`length_rank_le`).
-/

namespace GoAssist

open Unicode

/-- How many candidates a typed word leaves at most. -/
def maxRanked : Nat := 15

/-- How a label fits a typed word. -/
inductive Match where
  /-- The label begins with the word. -/
  | beginning
  /-- The label is similar to the word, to the given degree. -/
  | similar (degree : Float)

/-- The weight of a match: one for a beginning, and four fifths of its degree for a similarity. -/
def Match.weight : Match → Float
  | .beginning => 1.0
  | .similar degree => degree * 0.8

/-- The place of a number in the total order of floating-point numbers: a bit pattern without the sign
bit is its own place, and one with it lies below zero, the further the larger its other bits are. -/
def orderKey (x : Float) : Int :=
  let bits := x.toBits.toNat
  if bits < 0x8000000000000000 then bits else 0x7FFFFFFFFFFFFFFF - (bits : Int)

/-- How a label fits a word, both in lowercase, if it fits well enough. -/
def match? (similarity : List Char → List Char → Float) (word label : List Char) :
    Option Match :=
  if word.isPrefixOf label then some .beginning
  else
    let degree := similarity label word
    if 0.7 < degree then some (.similar degree) else none

/-- The candidates that fit a word, best first. -/
def rankBy (similarity : List Char → List Char → Float) (candidates : List Candidate)
    (word : List Char) : List Candidate :=
  if word.isEmpty then candidates
  else
    let fitting := candidates.filterMap fun candidate =>
      (match? similarity (lowercase word) (lowercase candidate.label.toList)).map (·, candidate)
    let sorted := fitting.mergeSort fun a b =>
      decide (orderKey b.1.weight ≤ orderKey a.1.weight)
    (sorted.take maxRanked).map Prod.snd

/-- The candidates that fit a word by the Jaro–Winkler similarity, best first. -/
def rank (candidates : List Candidate) (word : List Char) : List Candidate :=
  rankBy jaroWinkler candidates word

/-- The part of the line that the candidates replace. -/
def typedWord (line : Line) (candidates : List Candidate) : List Char :=
  match candidates with
  | [] => []
  | candidate :: _ => candidate.span.text line

/-- An empty word changes nothing. -/
theorem rank_nil (candidates : List Candidate) : rank candidates [] = candidates := rfl

/-- Any other word leaves at most `maxRanked` candidates. -/
theorem length_rankBy_le {similarity : List Char → List Char → Float}
    {candidates : List Candidate} {word : List Char} (h : word ≠ []) :
    (rankBy similarity candidates word).length ≤ maxRanked := by
  have : word.isEmpty = false := by simpa using h
  simp only [rankBy, this, Bool.false_eq_true, if_false, List.length_map, List.length_take]
  exact Nat.min_le_left _ _

/-- Any other word leaves at most `maxRanked` candidates. -/
theorem length_rank_le {candidates : List Candidate} {word : List Char} (h : word ≠ []) :
    (rank candidates word).length ≤ maxRanked :=
  length_rankBy_le h

end GoAssist
