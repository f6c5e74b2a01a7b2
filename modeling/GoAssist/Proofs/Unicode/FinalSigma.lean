import GoAssist.Unicode.Lowercase

/-!
# Lowercase of a beginning

Only a capital sigma has a lowercase that depends on what follows it. So the lowercase of a text begins
with that of its beginning, but for one case: the beginning ends in a sigma that is the last letter of
a word there, and the rest goes on with that word (`lowercase_prefix_append_iff`). The induction is on
the beginning, with what precedes it as the parameter that grows.
-/

namespace GoAssist.Unicode

/-- The last word of a text ends in a capital sigma: a cased letter precedes the sigma, and all that
follows it is case-ignorable. The text follows `before`, which is written backwards. -/
def EndsInSigma (before text : List Char) : Prop :=
  ∃ front back, text = front ++ 'Σ' :: back ∧ touchesCased (front.reverse ++ before) = true
    ∧ ∀ c ∈ back, isCaseIgnorable c = true

theorem not_isCaseIgnorable_sigma : isCaseIgnorable 'Σ' = false := by decide +kernel

theorem not_endsInSigma_of_ignorable {text : List Char} (h : ∀ c ∈ text, isCaseIgnorable c = true)
    (before : List Char) : ¬EndsInSigma before text := by
  rintro ⟨front, back, rfl, -, -⟩
  have hsigma := h 'Σ' (List.mem_append_right front List.mem_cons_self)
  rw [not_isCaseIgnorable_sigma] at hsigma
  cases hsigma

theorem endsInSigma_cons {before text : List Char} {c : Char} : EndsInSigma before (c :: text)
    ↔ (c = 'Σ' ∧ touchesCased before = true ∧ ∀ d ∈ text, isCaseIgnorable d = true)
      ∨ EndsInSigma (c :: before) text := by
  constructor
  · rintro ⟨front, back, htext, hcased, hback⟩
    cases front with
    | nil =>
        obtain ⟨rfl, rfl⟩ := List.cons.inj htext
        exact .inl ⟨rfl, hcased, hback⟩
    | cons d front =>
        obtain ⟨rfl, rfl⟩ := List.cons.inj htext
        rw [List.reverse_cons, List.append_assoc] at hcased
        exact .inr ⟨front, back, rfl, hcased, hback⟩
  · rintro (⟨rfl, hcased, htext⟩ | ⟨front, back, rfl, hcased, hback⟩)
    · exact ⟨[], text, rfl, hcased, htext⟩
    · refine ⟨c :: front, back, rfl, ?_, hback⟩
      rw [List.reverse_cons, List.append_assoc]
      exact hcased

theorem touchesCased_cons (c : Char) (text : List Char) : touchesCased (c :: text)
    = if isCaseIgnorable c then touchesCased text else isCased c := by
  rw [touchesCased, List.dropWhile_cons]
  by_cases hc : isCaseIgnorable c = true
  · rw [if_pos hc, if_pos hc, touchesCased]
  · rw [if_neg hc, if_neg hc]

theorem touchesCased_append_of_ignorable {text : List Char}
    (h : ∀ c ∈ text, isCaseIgnorable c = true) (rest : List Char) :
    touchesCased (text ++ rest) = touchesCased rest := by
  induction text with
  | nil => rfl
  | cons c text ih =>
      obtain ⟨hc, htext⟩ := List.forall_mem_cons.mp h
      rw [List.cons_append, touchesCased_cons, if_pos hc, ih htext]

theorem touchesCased_append_of_not_ignorable {text : List Char}
    (h : ¬∀ c ∈ text, isCaseIgnorable c = true) (rest : List Char) :
    touchesCased (text ++ rest) = touchesCased text := by
  induction text with
  | nil => exact absurd (List.forall_mem_nil _) h
  | cons c text ih =>
      rw [List.cons_append, touchesCased_cons, touchesCased_cons]
      by_cases hc : isCaseIgnorable c = true
      · rw [if_pos hc, if_pos hc]
        exact ih fun htext => h (List.forall_mem_cons.mpr ⟨hc, htext⟩)
      · rw [if_neg hc, if_neg hc]

/-- The sigma before a text that goes on looks the same with and without what goes on, but where it is
final without it. -/
theorem sigma_eq_sigma_iff {before text rest : List Char} :
    (if touchesCased before && !touchesCased text then 'ς' else 'σ')
        = (if touchesCased before && !touchesCased (text ++ rest) then 'ς' else 'σ')
      ↔ ¬((touchesCased before = true ∧ ∀ c ∈ text, isCaseIgnorable c = true)
        ∧ touchesCased rest = true) := by
  by_cases htext : ∀ c ∈ text, isCaseIgnorable c = true
  · have halone : touchesCased text = false := by
      rw [← List.append_nil text, touchesCased_append_of_ignorable htext]
      rfl
    rw [touchesCased_append_of_ignorable htext, halone, and_iff_left htext]
    cases touchesCased before <;> cases touchesCased rest <;> decide
  · rw [touchesCased_append_of_not_ignorable htext]
    exact iff_of_true rfl fun h => htext h.1.2

theorem lowercaseAfter_prefix_append_iff {before text rest : List Char} :
    lowercaseAfter before text <+: lowercaseAfter before (text ++ rest)
      ↔ ¬(EndsInSigma before text ∧ touchesCased rest = true) := by
  induction text generalizing before with
  | nil =>
      refine iff_of_true (List.nil_prefix) fun h => ?_
      exact not_endsInSigma_of_ignorable (List.forall_mem_nil _) before h.1
  | cons c text ih =>
      rw [List.cons_append, lowercaseAfter, lowercaseAfter, endsInSigma_cons]
      by_cases hsigma : c = 'Σ'
      · rw [if_pos hsigma, if_pos hsigma, List.singleton_append, List.singleton_append,
          List.cons_prefix_cons, sigma_eq_sigma_iff, ih]
        simp only [hsigma, true_and, or_and_right, not_or]
      · rw [if_neg hsigma, if_neg hsigma, List.prefix_append_right_inj, ih]
        simp only [hsigma, false_and, false_or]

/-- The lowercase of a text begins with that of a beginning of it, unless the beginning ends in a sigma
that only the rest makes a letter inside a word. -/
theorem lowercase_prefix_append_iff {text rest : List Char} :
    lowercase text <+: lowercase (text ++ rest)
      ↔ ¬(EndsInSigma [] text ∧ touchesCased rest = true) :=
  lowercaseAfter_prefix_append_iff

end GoAssist.Unicode
