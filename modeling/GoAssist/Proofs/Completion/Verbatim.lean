import GoAssist.Proofs.Completion.Ranking
import GoAssist.Proofs.Unicode.FinalSigma

/-!
# Labels that begin with the very word

A label that begins with a word, character for character, also begins with it in lowercase, unless the
cut between the word and the rest makes a final sigma of one that is not final in the label. Where the
lowercase of the word is the beginning of that of the label, the candidate is ranked before all that are
only similar, and nothing but fifteen beginnings keeps it out.
-/

namespace GoAssist

open Unicode

theorem begins_append_iff {candidate : Candidate} {word rest : List Char}
    (h : candidate.label.toList = word ++ rest) :
    Begins word candidate ↔ ¬(EndsInSigma [] word ∧ touchesCased rest = true) := by
  rw [Begins, h]
  exact lowercase_prefix_append_iff

/-- What a word leaves are places of the list, each of them once, with no beginning after one that is
only similar. A label that begins with the word itself is a beginning just if the rest of the label does
not go on with a word that would end in a sigma without it, and a beginning is missing only where
fifteen beginnings are left. -/
theorem rankBy_of_verbatim (similarity : List Char → List Char → Float)
    (hle : ∀ a b, similarity a b ≤ 1.0) (candidates : List Candidate) (word : List Char)
    (hword : word ≠ []) :
    ∃ places : List (Fin candidates.length),
      rankBy similarity candidates word = places.map candidates.get
      ∧ places.Nodup
      ∧ places.Pairwise (fun i j => Begins word (candidates.get j) → Begins word (candidates.get i))
      ∧ ∀ i rest, (candidates.get i).label.toList = word ++ rest →
          (Begins word (candidates.get i) ↔ ¬(EndsInSigma [] word ∧ touchesCased rest = true))
          ∧ (Begins word (candidates.get i) → i ∉ places →
              places.length = 15 ∧ ∀ j ∈ places, Begins word (candidates.get j)) := by
  have hordered : (ranking similarity candidates word).Pairwise fun i j =>
      Begins word (candidates.get j) → Begins word (candidates.get i) :=
    List.Pairwise.imp_of_mem (fun hi hj hbefore => begins_of_ranksBefore hle hi hj hbefore)
      (pairwise_ranking hle)
  have htake := List.take_sublist maxRanked (ranking similarity candidates word)
  refine ⟨(ranking similarity candidates word).take maxRanked, rankBy_eq_take_ranking hword,
    nodup_ranking.sublist htake, hordered.sublist htake, fun i rest hlabel => ?_⟩
  refine ⟨begins_append_iff hlabel, fun hbegins hmissing => ?_⟩
  have hfits : i ∈ ranking similarity candidates word := mem_ranking.mpr (.inl hbegins)
  obtain ⟨hlength, hbefore⟩ := length_take_of_not_mem hordered hfits hmissing
  exact ⟨hlength, fun j hj => hbefore j hj hbegins⟩

theorem rankBy_of_verbatim_sigma :
    (∀ a b, jaroWinkler a b ≤ 1.0) ∧ "ΑΣ".toList ≠ []
    ∧ ¬Begins "ΑΣ".toList (.ofPackageName ⟨0, 2⟩ "ΑΣΑ")
    ∧ .ofPackageName ⟨0, 2⟩ "ΑΣ Α"
      ∈ rankBy jaroWinkler (["ΑΣΑ", "ΑΣ Α"].map (.ofPackageName ⟨0, 2⟩)) "ΑΣ".toList := by
  refine ⟨jaroWinkler_le_one, by decide, ?_⟩
  obtain ⟨places, hrank, hnodup, -, hverbatim⟩ := rankBy_of_verbatim jaroWinkler jaroWinkler_le_one
    (["ΑΣΑ", "ΑΣ Α"].map (.ofPackageName ⟨0, 2⟩)) "ΑΣ".toList (by decide)
  obtain ⟨hinside, -⟩ := hverbatim ⟨0, by decide⟩ ['Α'] rfl
  obtain ⟨hfinal, hkept⟩ := hverbatim ⟨1, by decide⟩ [' ', 'Α'] rfl
  constructor
  · intro hbegins
    exact hinside.mp hbegins ⟨⟨['Α'], [], rfl, by decide +kernel, List.forall_mem_nil _⟩,
      by decide +kernel⟩
  · have hbegins := hfinal.mpr fun h => absurd h.2 (by decide +kernel)
    have hmem : ⟨1, by decide⟩ ∈ places := by
      by_contra hmissing
      obtain ⟨hlength, -⟩ := hkept hbegins hmissing
      have hfew : places.length ≤ 2 :=
        (List.subperm_of_subset hnodup fun place _ => List.mem_finRange place).length_le
      omega
    rw [hrank]
    exact List.mem_map.mpr ⟨_, hmem, rfl⟩

/-- Not so for every label that begins with the word: before `Α` the sigma is not final, and alone it
is. -/
theorem not_forall_rank_of_verbatim :
    ¬∀ (candidates : List Candidate) (word : List Char), word ≠ [] →
      ∀ candidate ∈ candidates, word <+: candidate.label.toList →
        candidate ∈ rank candidates word ∨ (rank candidates word).length = 15 := by
  intro h
  have hrank : rank [.ofPackageName ⟨0, 2⟩ "ΑΣΑ"] "ΑΣ".toList = [] := by decide +kernel
  rcases h [.ofPackageName ⟨0, 2⟩ "ΑΣΑ"] "ΑΣ".toList (by decide) (.ofPackageName ⟨0, 2⟩ "ΑΣΑ")
    List.mem_cons_self (by decide) with hmem | hlength
  · rw [hrank] at hmem
    cases hmem
  · rw [hrank] at hlength
    cases hlength

end GoAssist
