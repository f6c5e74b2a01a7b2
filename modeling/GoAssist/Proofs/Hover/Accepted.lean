import GoAssist.Proofs.Hover.Function
import GoAssist.Proofs.Line.Grammar

/-!
# The explanation of a completed function

A function that is accepted after a package name and a dot is explained as soon as it stands in the
line (`hoverAt?_accepted`). Its label is a word there: the dot stands before it
(`exists_replace_after_dot`), and what follows it begins with no identifier character, be it the rest
of the template or the rest of the line. A word is explained alike at every column that it touches
(`hoverAt?_of_isWordAt`).

The explanation goes by the label and not by the package, so it is that of the first package with
such a function. It is the accepted one if no package before has one
(`isFirstFunction_of_unique`).
-/

namespace GoAssist

/-- What is accepted after a dot is inserted between the dot and the rest of the line. -/
theorem exists_replace_after_dot {line : Line} {column : Nat} {package : String}
    (h : (analyze line column).mode = .member package) :
    ∃ before : List Char, (∀ c ∈ before.getLast?, isIdentChar c = false)
      ∧ (analyze line column).span.start = before.length
      ∧ ∀ text, (analyze line column).span.replace line text
          = before ++ text ++ line.drop column := by
  have hmember := mode_analyze_eq_member_iff.mp h
  have hspan := span_analyze_of_endsInMember hmember
  obtain ⟨front, hdot, -, -⟩ := hmember
  refine ⟨line.take column, fun c hc => ?_, by rw [hspan], fun text => ?_⟩
  · rw [hdot, List.getLast?_concat, Option.mem_some_iff] at hc
    rw [← hc, not_isIdentChar_dot]
  · have hreplace := Span.replace_of_cut (line.take column) [] (line.drop column) text
    rw [List.append_nil, List.take_append_drop] at hreplace
    rw [hspan, hreplace]

namespace Registry

variable {registry : Registry} {package : Package} {function : Symbol}

/-- A word is explained at every column that it touches. -/
theorem hoverAt?_of_isWordAt {before word rest : List Char} {column : Nat}
    (h : IsWordAt before word rest column) :
    registry.hoverAt? (before ++ word ++ rest) column = registry.hover? (String.ofList word) := by
  have hcolumn : min column (before ++ word ++ rest).length = column :=
    Nat.min_eq_left (Nat.le_trans h.le_stop (List.prefix_append (before ++ word) rest).length_le)
  have hword : wordAt? (before ++ word ++ rest) column
      = some ⟨word, ⟨before.length, (before ++ word).length⟩⟩ :=
    wordAt?_eq_some_iff.mpr ⟨before, rest, rfl, hcolumn.symm ▸ h, rfl⟩
  rw [hoverAt?, hword, Option.bind_some]

/-- What is accepted after a dot begins with a word, explained from the dot to its end. -/
theorem hoverAt?_accepted {line : Line} {column : Nat} {name : String}
    (hmode : (analyze line column).mode = .member name)
    (hcursor : ∀ c ∈ (line.drop column).head?, isIdentChar c = false) {word rest : List Char}
    (hne : word ≠ []) (hident : ∀ c ∈ word, isIdentChar c = true)
    (hright : ∀ c ∈ rest.head?, isIdentChar c = false) {target : Nat}
    (hle : (analyze line column).span.start ≤ target)
    (hge : target ≤ (analyze line column).span.start + word.length) :
    registry.hoverAt? ((analyze line column).span.replace line (word ++ rest)) target
      = registry.hover? (String.ofList word) := by
  obtain ⟨before, hleft, hstart, hreplace⟩ := exists_replace_after_dot hmode
  have hword : IsWordAt before word (rest ++ line.drop column) target := by
    refine ⟨⟨⟨hident, hleft⟩, fun c hc => ?_⟩, hne, hstart ▸ hle, ?_⟩
    · -- What follows the word is the rest of the text or, if that is empty, the rest of the line.
      rw [List.head?_append] at hc
      cases hhead : rest.head? with
      | none => exact hcursor c (by rwa [hhead, Option.none_or] at hc)
      | some d => exact hright c (by rwa [hhead, Option.some_or, ← hhead] at hc)
    · rwa [List.length_append, ← hstart]
  rw [hreplace, ← hoverAt?_of_isWordAt hword]
  simp only [List.append_assoc]

/-- A label stands for a function if no package before has one of the label and its own package has
no other. -/
theorem isFirstFunction_of_unique (hpackage : package ∈ registry.packages.toList)
    (hfunction : function ∈ package.functions)
    (hfirst : ∀ before after, registry.packages.toList = before ++ package :: after →
      ∀ earlier ∈ before, ∀ f ∈ earlier.functions, f.label ≠ function.label)
    (hunique : ∀ f ∈ package.functions, f.label = function.label → f = function) :
    registry.IsFirstFunction function.label package function := by
  obtain ⟨before, after, hpackages⟩ := List.append_of_mem hpackage
  obtain ⟨earlier, later, hfunctions, hnew⟩ := List.eq_append_cons_of_mem hfunction
  refine ⟨⟨before, after, hpackages, hfirst before after hpackages⟩,
    ⟨earlier, later, hfunctions, fun f hf hlabel => hnew ?_⟩, rfl⟩
  have hsame := hunique f (hfunctions ▸ List.mem_append_left _ hf) hlabel
  exact hsame ▸ hf

section Entries

variable (packages : List Package) (keywords types : List String) (snippets : List Snippet)

/-- A function that is accepted after the name of a package and a dot is explained at every column of
its label, from the dot to the end of the label, by one function: the first of that label in the
first kept package that has one. If no package before the named one has a function of the label and
the named one has no other, the explanation names that package and shows the candidate's detail.
No identifier character may stand after the label in the template, nor at the cursor. -/
theorem hoverAt?_accepted_function (line : Line) (column : Nat) {name : String} {package : Package}
    {candidate : Candidate}
    (hmode : (analyze line column).mode = .member name)
    (hpackage : (ofEntries packages keywords types snippets).lookup? name = some package)
    (hcursor : ∀ c ∈ (line.drop column).head?, isIdentChar c = false)
    (hmem : candidate ∈ (ofEntries packages keywords types snippets).candidatesAt line column)
    (hkind : candidate.kind = .function)
    (hne : candidate.label.toList ≠ [])
    (hident : ∀ c ∈ candidate.label.toList, isIdentChar c = true)
    (hinsert : ∃ rest, candidate.insertText.toList = candidate.label.toList ++ rest
      ∧ ∀ c ∈ rest.head?, isIdentChar c = false) :
    let registry := ofEntries packages keywords types snippets
    let edited := candidate.span.replace line candidate.insertText.toList
    let start := candidate.span.start
    let stop := candidate.span.start + candidate.label.toList.length
    (∃ first function, registry.IsFirstFunction candidate.label first function
      ∧ ∀ target, start ≤ target → target ≤ stop →
        (registry.hoverAt? edited target).map Hover.contents
          = some (functionBlocks first.name candidate.label function.signature))
    ∧ ((∀ before after, registry.packages.toList = before ++ package :: after →
          ∀ earlier ∈ before, ∀ f ∈ earlier.functions, f.label ≠ candidate.label) →
        (∀ f ∈ package.functions, ∀ g ∈ package.functions, f.label = candidate.label →
          g.label = candidate.label → f = g) →
        ∃ detail, candidate.detail = some detail ∧ ∀ target, start ≤ target → target ≤ stop →
          (registry.hoverAt? edited target).map Hover.contents
            = some (functionBlocks name candidate.label detail)) := by
  intro registry edited start stop
  have hspan : candidate.span = (analyze line column).span := span_of_mem_candidates hmem
  have hcandidate : candidate ∈ registry.candidates ⟨.member name, (analyze line column).span⟩ :=
    hmode ▸ hmem
  have hexplained : ∀ target, start ≤ target → target ≤ stop →
      (registry.hoverAt? edited target).map Hover.contents
        = registry.explanation candidate.label := by
    intro target hle hge
    obtain ⟨rest, hrest, hright⟩ := hinsert
    simp only [start, stop, hspan] at hle hge
    simp only [edited, hspan, hrest]
    rw [hoverAt?_accepted hmode hcursor hne hident hright hle hge, String.ofList_toList,
      explanation]
  refine ⟨?_, fun hfirst hunique => ?_⟩
  · obtain ⟨first, function, hfunction⟩ :=
      hasFunction_iff.mp (hasFunction_of_mem_candidates hcandidate hkind)
    refine ⟨first, function, hfunction, fun target hle hge => ?_⟩
    rw [hexplained target hle hge, explanation_of_function hfunction]
  · obtain ⟨found, function, hfound, hfunction, rfl⟩ :=
      exists_function_of_mem_candidates hcandidate hkind
    obtain rfl : found = package := Option.some.inj (hfound.symm.trans hpackage)
    have hname : found.name = name := name_of_lookup? hfound
    have hstands := isFirstFunction_of_unique (mem_packages_of_lookup? hfound) hfunction hfirst
      fun f hf hlabel => hunique f hf function hfunction hlabel rfl
    refine ⟨function.signature, rfl, fun target hle hge => ?_⟩
    rw [hexplained target hle hge]
    exact hname ▸ explanation_of_function hstands

end Entries

/-- A call is accepted before a closing bracket. The package before has a constant of the label, and
the package after a function of it. -/
theorem hoverAt?_accepted_function_before_bracket :
    let exit : Symbol := ⟨"Exit", "Exit($1)", "func Exit(code int)", .function⟩
    let fmt : Package := .ofSymbols "fmt" [⟨"Exit", "Exit", "const Exit", .constant⟩]
    let os : Package := .ofSymbols "os" [exit]
    let app : Package := .ofSymbols "app" [⟨"Exit", "Exit()", "func Exit()", .function⟩]
    let registry := ofEntries [fmt, os, app] [] [] []
    let accepted : Candidate := ⟨"Exit", .function, "Exit($1)", some "func Exit(code int)", ⟨3, 3⟩⟩
    (analyze ['o', 's', '.', ')'] 3).mode = .member "os"
    ∧ registry.lookup? "os" = some os
    ∧ accepted ∈ registry.candidatesAt ['o', 's', '.', ')'] 3
    ∧ ∀ target, 3 ≤ target → target ≤ 7 →
      (registry.hoverAt? ['o', 's', '.', 'E', 'x', 'i', 't', '(', '$', '1', ')', ')'] target).map
          Hover.contents
        = some ["**os.Exit**", "func Exit(code int)"] := by
  intro exit fmt os app registry accepted
  have hmode : (analyze ['o', 's', '.', ')'] 3).mode = .member "os" := by decide +kernel
  have hpackage : registry.lookup? "os" = some os := by decide +kernel
  have hmem : accepted ∈ registry.candidatesAt ['o', 's', '.', ')'] 3 := by decide +kernel
  have hlabel : accepted.label.toList = ['E', 'x', 'i', 't'] := by decide
  have hedited : accepted.span.replace ['o', 's', '.', ')'] accepted.insertText.toList
      = ['o', 's', '.', 'E', 'x', 'i', 't', '(', '$', '1', ')', ')'] := by decide
  have hfirst : ∀ before after, registry.packages.toList = before ++ os :: after →
      ∀ earlier ∈ before, ∀ f ∈ earlier.functions, f.label ≠ accepted.label := by
    have hpackages : registry.packages.toList = [fmt, os, app] := by decide +kernel
    intro before after hsplit earlier hearlier
    rw [hpackages] at hsplit
    rcases before with _ | ⟨first, _ | ⟨second, others⟩⟩
    · cases hearlier
    · obtain rfl : fmt = first := (List.cons.inj hsplit).1
      obtain rfl := List.mem_singleton.mp hearlier
      decide +kernel
    · have hlast : [app] = others ++ os :: after := (List.cons.inj (List.cons.inj hsplit).2).2
      have hos : os ∈ [app] := hlast ▸ List.mem_append_right others List.mem_cons_self
      exact absurd hos (by decide +kernel)
  have hunique : ∀ f ∈ os.functions, ∀ g ∈ os.functions, f.label = accepted.label →
      g.label = accepted.label → f = g := by
    have hfunctions : os.functions = [exit] := by decide +kernel
    intro f hf g hg _ _
    rw [hfunctions, List.mem_singleton] at hf hg
    rw [hf, hg]
  have hcursor : ∀ c ∈ (['o', 's', '.', ')'].drop 3).head?, isIdentChar c = false := by
    intro c hc
    obtain rfl : ')' = c := Option.some.inj hc
    decide
  have hident : ∀ c ∈ accepted.label.toList, isIdentChar c = true := by
    rw [hlabel]
    exact List.all_eq_true.mp (by decide)
  have htemplate : ∀ c ∈ ['(', '$', '1', ')'].head?, isIdentChar c = false := by
    intro c hc
    obtain rfl : '(' = c := Option.some.inj hc
    decide
  obtain ⟨-, hexplained⟩ := hoverAt?_accepted_function [fmt, os, app] [] [] []
    ['o', 's', '.', ')'] 3 hmode hpackage hcursor hmem rfl (by rw [hlabel]; decide) hident
    ⟨['(', '$', '1', ')'], by decide, htemplate⟩
  obtain ⟨detail, hdetail, hhover⟩ := hexplained hfirst hunique
  obtain rfl : "func Exit(code int)" = detail := Option.some.inj hdetail
  rw [hedited, hlabel] at hhover
  exact ⟨hmode, hpackage, hmem, hhover⟩

end Registry

end GoAssist
