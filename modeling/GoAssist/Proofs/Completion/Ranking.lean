import GoAssist.Proofs.Completion.Weight
import Mathlib.Data.List.FinRange
import Mathlib.Data.List.Nodup

/-!
# The order of ranked candidates

A candidate fits a word if its label begins with the word (`Begins`) or is similar to it (`Resembles`).
Candidates may repeat, so it is their places in the list that are ranked (`ranking`). The sort is stable,
so the places come by decreasing weight and in list order where weights are the same
(`pairwise_ranking`); that determines the ranking, whichever sort was used (`eq_ranking`). A beginning
outweighs every similarity, so the places where the label begins with the word come first, all of them
in list order, and then those of similar labels (`ranking_eq_append`). A word leaves the first fifteen
(`rankBy_eq_take_ranking`).
-/

namespace GoAssist

open Unicode

/-! ## Stable sorting -/

/-- A stable sort keeps the order in which equals were given. -/
theorem pairwise_mergeSort_of_pairwise {α : Type} (le : α → α → Bool) {before : α → α → Prop}
    (trans : ∀ a b c, le a b → le b c → le a c) (total : ∀ a b, le a b || le b a) {l : List α}
    (h : l.Pairwise before) :
    (l.mergeSort le).Pairwise fun a b => le a b = true ∧ (le b a = true → before a b) := by
  induction l with
  | nil => rw [List.mergeSort_nil]; exact .nil
  | cons a l ih =>
      obtain ⟨hfirst, hrest⟩ := List.pairwise_cons.mp h
      have hsorted := List.pairwise_mergeSort trans total (a :: l)
      obtain ⟨front, back, hcons, hl, hfront⟩ := List.mergeSort_cons trans total a l
      have ih := ih hrest
      have hmem : ∀ b ∈ front ++ back, b ∈ l := fun b hb => List.mem_mergeSort.mp (hl ▸ hb)
      rw [hl] at ih
      rw [hcons] at hsorted ⊢
      obtain ⟨hpfront, hpback, hcross⟩ := List.pairwise_append.mp ih
      obtain ⟨-, hsback, hscross⟩ := List.pairwise_append.mp hsorted
      -- What stands before `a` in the sorted list comes strictly before it, and what stands behind it
      -- was given after it.
      refine List.pairwise_append.mpr ⟨hpfront, List.pairwise_cons.mpr ⟨fun b hb => ?_, hpback⟩, ?_⟩
      · exact ⟨(List.pairwise_cons.mp hsback).1 b hb,
          fun _ => hfirst b (hmem b (List.mem_append_right front hb))⟩
      · intro b hb c hc
        rcases List.mem_cons.mp hc with rfl | hc
        · refine ⟨hscross b hb c List.mem_cons_self, fun hback => ?_⟩
          have hnot := hfront b hb
          rw [hback] at hnot
          cases hnot
        · exact hcross b hb c hc

/-- Where all that passes a test comes before all that does not, the list is those that pass and then
the others. -/
theorem eq_filter_append_filter {α : Type} {p : α → Bool} {l : List α}
    (h : l.Pairwise fun a b => p b = true → p a = true) :
    l = l.filter p ++ l.filter fun a => !p a := by
  induction l with
  | nil => rfl
  | cons a l ih =>
      obtain ⟨hfirst, hrest⟩ := List.pairwise_cons.mp h
      by_cases ha : p a = true
      · rw [List.filter_cons_of_pos ha, List.filter_cons_of_neg (by simp [ha]), List.cons_append,
          ← ih hrest]
      · have hnone : l.filter p = [] :=
          List.filter_eq_nil_iff.mpr fun b hb hpass => ha (hfirst b hb hpass)
        have hall : (l.filter fun a => !p a) = l := List.filter_eq_self.mpr fun b hb => by
          have := mt (hfirst b hb) ha
          simpa using this
        rw [List.filter_cons_of_neg ha, List.filter_cons_of_pos (by simp [ha]), hnone, hall,
          List.nil_append]

/-- What is missing among the first of a list comes after each of them, and there are as many of them as
were asked for. -/
theorem length_take_of_not_mem {α : Type} {before : α → α → Prop} {l : List α}
    (h : l.Pairwise before) {n : Nat} {a : α} (ha : a ∈ l) (hnot : a ∉ l.take n) :
    (l.take n).length = n ∧ ∀ b ∈ l.take n, before b a := by
  rw [← List.take_append_drop n l] at h ha
  have hdrop := (List.mem_append.mp ha).resolve_left hnot
  constructor
  · rw [List.length_take]
    refine Nat.min_eq_left (Nat.le_of_not_lt fun hlt => ?_)
    rw [List.drop_of_length_le (Nat.le_of_lt hlt)] at hdrop
    cases hdrop
  · exact fun b hb => (List.pairwise_append.mp h).2.2 b hb a hdrop

theorem filterMap_eq_map_filter {α β : Type} {f : α → Option β} {g : α → β}
    (h : ∀ a b, f a = some b → b = g a) (l : List α) :
    l.filterMap f = (l.filter fun a => (f a).isSome).map g := by
  induction l with
  | nil => rfl
  | cons a l ih =>
      cases hfa : f a with
      | none => rw [List.filterMap_cons_none hfa, List.filter_cons_of_neg (by simp [hfa]), ih]
      | some b =>
          rw [List.filterMap_cons_some hfa, List.filter_cons_of_pos (by simp [hfa]), List.map_cons,
            ih, h a b hfa]

/-! ## What fits a word -/

/-- The label of a candidate begins with a word, where case does not count. -/
def Begins (word : List Char) (candidate : Candidate) : Prop :=
  lowercase word <+: lowercase candidate.label.toList

instance (word : List Char) : DecidablePred (Begins word) :=
  fun candidate => inferInstanceAs (Decidable (lowercase word <+: lowercase candidate.label.toList))

/-- How similar the label of a candidate is to a word, where case does not count. -/
def degree (similarity : List Char → List Char → Float) (word : List Char) (candidate : Candidate) :
    Float :=
  similarity (lowercase candidate.label.toList) (lowercase word)

/-- The label of a candidate does not begin with a word but is similar to it. -/
def Resembles (similarity : List Char → List Char → Float) (word : List Char)
    (candidate : Candidate) : Prop :=
  ¬Begins word candidate ∧ 0.7 < degree similarity word candidate

instance (similarity : List Char → List Char → Float) (word : List Char) :
    DecidablePred (Resembles similarity word) :=
  fun _ => inferInstanceAs (Decidable (_ ∧ _))

/-- The weight of a candidate that fits a word. -/
def weight (similarity : List Char → List Char → Float) (word : List Char) (candidate : Candidate) :
    Float :=
  if Begins word candidate then 1.0 else degree similarity word candidate * 0.8

section

variable (similarity : List Char → List Char → Float) (candidates : List Candidate)
  (word : List Char)

/-- How the label of a candidate fits a word, if it does. -/
def fit? (candidate : Candidate) : Option Match :=
  match? similarity (lowercase word) (lowercase candidate.label.toList)

/-- The places of the candidates that fit a word, best first. -/
def ranking : List (Fin candidates.length) :=
  ((List.finRange candidates.length).filter fun i => (fit? similarity word candidates[i]).isSome).mergeSort
    fun i j => decide (orderKey (weight similarity word candidates[j])
      ≤ orderKey (weight similarity word candidates[i]))

end

variable {similarity : List Char → List Char → Float} {candidates : List Candidate}
  {word : List Char}

theorem fit?_eq (candidate : Candidate) : fit? similarity word candidate
    = if Begins word candidate then some .beginning
      else if 0.7 < degree similarity word candidate
        then some (.similar (degree similarity word candidate)) else none := by
  rw [fit?, match?]
  by_cases hbegins : Begins word candidate
  · rw [if_pos hbegins, if_pos (List.isPrefixOf_iff_prefix.mpr hbegins)]
  · rw [if_neg hbegins, if_neg (mt List.isPrefixOf_iff_prefix.mp hbegins)]
    rfl

theorem isSome_fit?_iff {candidate : Candidate} : (fit? similarity word candidate).isSome = true
    ↔ Begins word candidate ∨ Resembles similarity word candidate := by
  rw [fit?_eq, Resembles]
  by_cases hbegins : Begins word candidate
  · simp [hbegins]
  · by_cases hdegree : 0.7 < degree similarity word candidate <;> simp [hbegins, hdegree]

/-- A match weighs what its candidate does. -/
theorem weight_of_fit? {candidate : Candidate} {fit : Match}
    (h : fit? similarity word candidate = some fit) : fit.weight = weight similarity word candidate := by
  rw [fit?_eq] at h
  rw [weight]
  split at h
  · rename_i hbegins
    cases h
    rw [if_pos hbegins]
    rfl
  · rename_i hbegins
    split at h
    · cases h
      rw [if_neg hbegins]
      rfl
    · cases h

/-! ## The ranking -/

theorem mem_ranking {i : Fin candidates.length} : i ∈ ranking similarity candidates word
    ↔ Begins word candidates[i] ∨ Resembles similarity word candidates[i] := by
  rw [ranking, List.mem_mergeSort, List.mem_filter, isSome_fit?_iff]
  exact and_iff_right (List.mem_finRange i)

theorem nodup_ranking : (ranking similarity candidates word).Nodup := by
  rw [ranking]
  exact (List.mergeSort_perm _ _).symm.nodup ((List.nodup_finRange _).filter _)

/-- A word that is not empty leaves the candidates at the first places of the ranking. -/
theorem rankBy_eq_take_ranking (hword : word ≠ []) : rankBy similarity candidates word
    = ((ranking similarity candidates word).take maxRanked).map (candidates[·]) := by
  have hempty : word.isEmpty = false := by simpa using hword
  let fits : List (Fin candidates.length) :=
    (List.finRange candidates.length).filter fun i => (fit? similarity word candidates[i]).isSome
  let paired : Fin candidates.length → Match × Candidate := fun i =>
    ((fit? similarity word candidates[i]).getD .beginning, candidates[i])
  have hfitting : (candidates.filterMap fun candidate =>
      (fit? similarity word candidate).map (·, candidate)) = fits.map paired := by
    calc candidates.filterMap (fun candidate => (fit? similarity word candidate).map (·, candidate))
        = ((List.finRange candidates.length).map candidates.get).filterMap fun candidate =>
            (fit? similarity word candidate).map (·, candidate) := by
          rw [List.map_get_finRange]
      _ = (List.finRange candidates.length).filterMap fun i =>
            (fit? similarity word candidates[i]).map (·, candidates[i]) := List.filterMap_map
      _ = fits.map paired := by
          rw [filterMap_eq_map_filter (g := paired)]
          · simp only [fits, Option.isSome_map]
          · intro i pair hpair
            obtain ⟨fit, hfit, rfl⟩ := Option.map_eq_some_iff.mp hpair
            simp only [paired, hfit, Option.getD_some]
  have hweight : ∀ i ∈ fits, (paired i).1.weight = weight similarity word candidates[i] := by
    intro i hi
    obtain ⟨fit, hfit⟩ := Option.isSome_iff_exists.mp (List.mem_filter.mp hi).2
    simp only [paired, hfit, Option.getD_some]
    exact weight_of_fit? hfit
  have hsorted : (fits.map paired).mergeSort (fun a b =>
      decide (orderKey b.1.weight ≤ orderKey a.1.weight))
      = (ranking similarity candidates word).map paired := by
    refine (List.map_mergeSort fun i hi j hj => ?_).symm
    rw [hweight i hi, hweight j hj]
  have hrank : rankBy similarity candidates word = if word.isEmpty then candidates
      else ((((candidates.filterMap fun candidate =>
        (fit? similarity word candidate).map (·, candidate)).mergeSort fun a b =>
          decide (orderKey b.1.weight ≤ orderKey a.1.weight)).take maxRanked).map Prod.snd) := rfl
  rw [hrank, hempty, if_neg Bool.false_ne_true, hfitting, hsorted, ← List.map_take, List.map_map]
  rfl

/-! ## The order of the ranking -/

/-- One place is ranked before another: its weight is greater, or the same and it is the earlier one. -/
def RanksBefore (similarity : List Char → List Char → Float) (candidates : List Candidate)
    (word : List Char) (i j : Fin candidates.length) : Prop :=
  weight similarity word candidates[j] < weight similarity word candidates[i]
    ∨ weight similarity word candidates[i] = weight similarity word candidates[j] ∧ i < j

section

variable (hle : ∀ a b, similarity a b ≤ 1.0)

include hle

theorem Resembles.weight_lt {candidate : Candidate} (h : Resembles similarity word candidate) :
    (weight similarity word candidate).toBits.toNat < (1.0 : Float).toBits.toNat := by
  rw [weight, if_neg h.1]
  exact toBits_mul_lt_of_le_one h.2 (hle _ _)

theorem inUnit_weight {candidate : Candidate}
    (h : Begins word candidate ∨ Resembles similarity word candidate) :
    InUnit (weight similarity word candidate) := by
  rcases h with hbegins | hresembles
  · rw [weight, if_pos hbegins]
    exact Nat.le_refl _
  · exact Nat.le_of_lt (hresembles.weight_lt hle)

theorem pairwise_ranking :
    (ranking similarity candidates word).Pairwise (RanksBefore similarity candidates word) := by
  have hplaces : ((List.finRange candidates.length).filter fun i =>
      (fit? similarity word candidates[i]).isSome).Pairwise (· < ·) :=
    (List.pairwise_lt_finRange _).filter _
  have hstable := pairwise_mergeSort_of_pairwise (fun i j : Fin candidates.length =>
    decide (orderKey (weight similarity word candidates[j])
      ≤ orderKey (weight similarity word candidates[i])))
    (fun i j k hij hjk => by simp only [decide_eq_true_eq] at hij hjk ⊢; omega)
    (fun i j => by simp only [Bool.or_eq_true, decide_eq_true_eq]; omega) hplaces
  refine List.Pairwise.imp_of_mem (fun {i j} hi hj hbefore => ?_) hstable
  obtain ⟨hkey, hties⟩ := hbefore
  simp only [decide_eq_true_eq] at hkey hties
  rcases Int.lt_or_eq_of_le hkey with hlt | heq
  · exact .inl (((inUnit_weight hle (mem_ranking.mp hj)).orderKey_lt_iff
      (inUnit_weight hle (mem_ranking.mp hi))).mp hlt)
  · exact .inr ⟨(orderKey_injective heq).symm, hties (Int.le_of_eq heq.symm)⟩

/-- Nothing is ranked both before and after the same place. -/
theorem RanksBefore.asymm {i j : Fin candidates.length} (hi : i ∈ ranking similarity candidates word)
    (hj : j ∈ ranking similarity candidates word) (h : RanksBefore similarity candidates word i j) :
    ¬RanksBefore similarity candidates word j i := by
  have hiunit := inUnit_weight hle (mem_ranking.mp hi)
  have hjunit := inUnit_weight hle (mem_ranking.mp hj)
  intro hback
  rw [RanksBefore, hjunit.lt_iff hiunit] at h
  rw [RanksBefore, hiunit.lt_iff hjunit] at hback
  rcases h with hlt | ⟨heq, hlt⟩ <;> rcases hback with hgt | ⟨heq', hgt⟩
  · omega
  · rw [heq'] at hlt
    omega
  · rw [heq] at hgt
    omega
  · omega

/-- No other list of the places that fit is in this order. -/
theorem eq_ranking {places : List (Fin candidates.length)} (hnodup : places.Nodup)
    (hmem : ∀ i, i ∈ places ↔ Begins word candidates[i] ∨ Resembles similarity word candidates[i])
    (hordered : places.Pairwise (RanksBefore similarity candidates word)) :
    places = ranking similarity candidates word := by
  have hfits : ∀ i, i ∈ places ↔ i ∈ ranking similarity candidates word :=
    fun i => (hmem i).trans mem_ranking.symm
  refine List.Perm.eq_of_pairwise (fun i j hi hj hij hji => ?_) hordered (pairwise_ranking hle)
    ((List.perm_ext_iff_of_nodup hnodup nodup_ranking).mpr hfits)
  exact absurd hji (hij.asymm hle ((hfits i).mp hi) hj)

/-- Nothing but a beginning is ranked before a beginning. -/
theorem begins_of_ranksBefore {i j : Fin candidates.length}
    (hi : i ∈ ranking similarity candidates word) (hj : j ∈ ranking similarity candidates word)
    (h : RanksBefore similarity candidates word i j) (hbegins : Begins word candidates[j]) :
    Begins word candidates[i] := by
  by_contra hnot
  have hless := ((mem_ranking.mp hi).resolve_left hnot).weight_lt hle
  have hone : weight similarity word candidates[j] = 1.0 := if_pos hbegins
  rw [RanksBefore, (inUnit_weight hle (mem_ranking.mp hj)).lt_iff
    (inUnit_weight hle (mem_ranking.mp hi)), hone] at h
  rcases h with hlt | ⟨heq, -⟩
  · omega
  · rw [heq] at hless
    omega

/-- The places of beginnings come first, in list order. -/
theorem ranking_eq_append : ranking similarity candidates word
    = ((List.finRange candidates.length).filter fun i => decide (Begins word candidates[i]))
      ++ (ranking similarity candidates word).filter fun i => !decide (Begins word candidates[i]) := by
  have hordered : (ranking similarity candidates word).Pairwise
      (RanksBefore similarity candidates word) := pairwise_ranking hle
  have hsplit : ranking similarity candidates word
      = ((ranking similarity candidates word).filter fun i => decide (Begins word candidates[i]))
        ++ (ranking similarity candidates word).filter fun i => !decide (Begins word candidates[i]) :=
    eq_filter_append_filter (List.Pairwise.imp_of_mem (fun hi hj hbefore hbegins =>
      decide_eq_true (begins_of_ranksBefore hle hi hj hbefore (of_decide_eq_true hbegins))) hordered)
  have hbeginnings : (ranking similarity candidates word).filter
      (fun i => decide (Begins word candidates[i]))
      = (List.finRange candidates.length).filter fun i => decide (Begins word candidates[i]) := by
    refine @List.Perm.eq_of_pairwise _ (· < ·) _ _
      (fun i j _ _ hij hji => absurd hij (lt_asymm hji)) ?_ ((List.pairwise_lt_finRange _).filter _) ?_
    · -- Beginnings weigh the same, so they are ranked as they were given.
      refine List.Pairwise.imp_of_mem (fun {i j} hi hj hbefore => ?_) (hordered.filter _)
      have hiweight : weight similarity word candidates[i] = 1.0 :=
        if_pos (of_decide_eq_true (List.mem_filter.mp hi).2)
      have hjweight : weight similarity word candidates[j] = 1.0 :=
        if_pos (of_decide_eq_true (List.mem_filter.mp hj).2)
      rcases hbefore with hlt | ⟨-, hlt⟩
      · rw [hiweight, hjweight] at hlt
        exact absurd hlt (by decide)
      · exact hlt
    · rw [List.perm_ext_iff_of_nodup (nodup_ranking.filter _) ((List.nodup_finRange _).filter _)]
      intro i
      rw [List.mem_filter, List.mem_filter, mem_ranking]
      simp only [decide_eq_true_eq, List.mem_finRange, true_and, and_iff_right_iff_imp]
      exact .inl
  rw [hbeginnings] at hsplit
  exact hsplit

end

theorem jaroWinkler_le_one (a b : List Char) : jaroWinkler a b ≤ 1.0 := by
  rw [jaroWinkler]
  split
  · assumption
  · decide

/-- An empty word leaves all candidates. Any other leaves the first fifteen of those whose label begins
with it, in list order, followed by those whose label is similar enough, by decreasing weight and in list
order where weights are the same. Each place of the list is there once at most, and one that fits is
missing only where fifteen are left that fit at least as well. -/
theorem rankBy_eq_take_append (similarity : List Char → List Char → Float)
    (hle : ∀ a b, similarity a b ≤ 1.0) (candidates : List Candidate) :
    rankBy similarity candidates [] = candidates
    ∧ ∀ word ≠ [], ∃ similars : List (Fin candidates.length),
        let beginnings := (List.finRange candidates.length).filter fun i =>
          decide (Begins word candidates[i])
        let score := fun i : Fin candidates.length => degree similarity word candidates[i] * 0.8
        (∀ i, i ∈ similars
          ↔ ¬Begins word candidates[i] ∧ 0.7 < degree similarity word candidates[i])
        ∧ similars.Pairwise (fun i j => score j < score i ∨ score i = score j ∧ i < j)
        ∧ rankBy similarity candidates word
          = ((beginnings ++ similars).take 15).map (candidates[·])
        ∧ (beginnings ++ similars).Nodup
        ∧ ∀ i ∈ beginnings ++ similars, i ∉ (beginnings ++ similars).take 15 →
            ((beginnings ++ similars).take 15).length = 15
            ∧ ∀ j ∈ (beginnings ++ similars).take 15, Begins word candidates[j]
                ∨ ¬Begins word candidates[i] ∧ (score i < score j ∨ score i = score j) := by
  refine ⟨rfl, fun word hword =>
    ⟨(ranking similarity candidates word).filter fun i => !decide (Begins word candidates[i]), ?_⟩⟩
  have hordered : (ranking similarity candidates word).Pairwise
      (RanksBefore similarity candidates word) := pairwise_ranking hle
  have hscore : ∀ i : Fin candidates.length, ¬Begins word candidates[i] →
      weight similarity word candidates[i] = degree similarity word candidates[i] * 0.8 :=
    fun i hnot => if_neg hnot
  intro beginnings score
  rw [← ranking_eq_append hle]
  refine ⟨fun i => ?_, ?_, rankBy_eq_take_ranking hword, nodup_ranking, fun i hi hmissing => ?_⟩
  · rw [List.mem_filter, mem_ranking, Bool.not_eq_true', decide_eq_false_iff_not]
    constructor
    · rintro ⟨hfits, hnot⟩
      exact hfits.resolve_left hnot
    · exact fun hresembles => ⟨.inr hresembles, hresembles.1⟩
  · refine List.Pairwise.imp_of_mem (fun {i j} hi hj hbefore => ?_) (hordered.filter _)
    have hi := hscore i (by simpa using (List.mem_filter.mp hi).2)
    have hj := hscore j (by simpa using (List.mem_filter.mp hj).2)
    rwa [RanksBefore, hi, hj] at hbefore
  · obtain ⟨hlength, hbefore⟩ := length_take_of_not_mem hordered hi hmissing
    refine ⟨hlength, fun j hj => ?_⟩
    have hbefore := hbefore j hj
    by_cases hjbegins : Begins word candidates[j]
    · exact .inl hjbegins
    · have hibegins := mt (begins_of_ranksBefore hle (List.mem_of_mem_take hj) hi hbefore) hjbegins
      rw [RanksBefore, hscore i hibegins, hscore j hjbegins] at hbefore
      exact .inr ⟨hibegins, hbefore.imp_right fun h => h.1.symm⟩

theorem rankBy_eq_take_append_misspelt :
    (∀ a b, jaroWinkler a b ≤ 1.0)
    ∧ rankBy jaroWinkler (["Prinz", "Printf", "Print", "Prinz", "x"].map (.ofPackageName ⟨0, 5⟩))
        "print".toList
      = ["Printf", "Print", "Prinz", "Prinz"].map (.ofPackageName ⟨0, 5⟩) := by
  refine ⟨jaroWinkler_le_one, ?_⟩
  obtain ⟨similars, hmem, hordered, hrank, hnodup, -⟩ :=
    (rankBy_eq_take_append jaroWinkler jaroWinkler_le_one
      (["Prinz", "Printf", "Print", "Prinz", "x"].map (.ofPackageName ⟨0, 5⟩))).2
      "print".toList (by decide)
  -- The two of the same weight stay in list order, and nothing else is similar.
  have hsimilars : similars = [⟨0, by decide⟩, ⟨3, by decide⟩] := by
    refine List.Perm.eq_of_pairwise (fun i j hi hj => ?_) hordered (by decide +kernel) ?_
    · rw [hmem] at hi
      revert i j
      decide +kernel
    · rw [List.perm_ext_iff_of_nodup (List.nodup_append.mp hnodup).2.1 (by decide)]
      intro i
      rw [hmem i]
      revert i
      decide +kernel
  rw [hrank, hsimilars]
  decide +kernel

end GoAssist
