import GoAssist.Registry.Package

/-!
# The order of a package's members

A package is its functions, then its constants, then its variables, each kind in the given order
(`symbols_ofSymbols`). That the sort keeps the order inside a kind is `symbolsOfKind_ofSymbols`:
what is given of one kind is in order already, so a stable sort has it as a sublist, and it has no
more of that kind. That the kinds stand one after another is a fact about any list in order by kind
(`eq_byKind_of_pairwise`).

So a list that is in order stays as it is (`symbols_ofSymbols_of_pairwise`), and a look-up by label,
which takes the first member, goes by kind before it goes by the given order (`get?_ofSymbols`).
-/

namespace GoAssist

/-- The symbols of one kind, in their order. -/
def symbolsOfKind (kind : SymbolKind) (symbols : List Symbol) : List Symbol :=
  symbols.filter fun symbol => symbol.kind == kind

/-- The symbols, functions first, then constants, then variables. -/
def byKind (symbols : List Symbol) : List Symbol :=
  symbolsOfKind .function symbols ++ symbolsOfKind .constant symbols
    ++ symbolsOfKind .variable symbols

/-- The first symbol of a kind with a label. -/
def firstOfKind? (kind : SymbolKind) (label : String) (symbols : List Symbol) : Option Symbol :=
  symbols.find? fun symbol => symbol.kind == kind && symbol.label == label

theorem symbolsOfKind_cons (kind : SymbolKind) (symbol : Symbol) (symbols : List Symbol) :
    symbolsOfKind kind (symbol :: symbols)
      = if symbol.kind = kind then symbol :: symbolsOfKind kind symbols
        else symbolsOfKind kind symbols := by
  simp only [symbolsOfKind, List.filter_cons, beq_iff_eq]

/-- Nothing of a kind is left where all that follows comes later. -/
theorem symbolsOfKind_eq_nil {kind : SymbolKind} {symbols : List Symbol}
    (h : ∀ symbol ∈ symbols, kind.rank < symbol.kind.rank) : symbolsOfKind kind symbols = [] := by
  refine List.filter_eq_nil_iff.mpr fun symbol hsymbol heq => ?_
  have hlt := h symbol hsymbol
  rw [eq_of_beq heq] at hlt
  exact Nat.lt_irrefl _ hlt

/-- Symbols in order by kind are grouped by kind. -/
theorem eq_byKind_of_pairwise {symbols : List Symbol}
    (h : symbols.Pairwise fun s t => s.kind.rank ≤ t.kind.rank) : symbols = byKind symbols := by
  induction symbols with
  | nil => rfl
  | cons symbol symbols ih =>
      obtain ⟨hfirst, hrest⟩ := List.pairwise_cons.mp h
      have hlater : ∀ kind : SymbolKind, kind.rank < symbol.kind.rank →
          symbolsOfKind kind symbols = [] :=
        fun kind hlt => symbolsOfKind_eq_nil fun s hs => Nat.lt_of_lt_of_le hlt (hfirst s hs)
      have hgroups := ih hrest
      simp only [byKind, symbolsOfKind_cons] at hgroups ⊢
      cases hkind : symbol.kind with
      | function => simpa using hgroups
      | constant =>
          rw [hlater .function (by rw [hkind]; decide)] at hgroups ⊢
          simpa using hgroups
      | «variable» =>
          rw [hlater .function (by rw [hkind]; decide),
            hlater .constant (by rw [hkind]; decide)] at hgroups ⊢
          simpa using hgroups

namespace Package

/-- Sorting leaves the symbols of each kind as they were given. -/
theorem symbolsOfKind_ofSymbols (name : String) (symbols : List Symbol) (kind : SymbolKind) :
    symbolsOfKind kind (ofSymbols name symbols).symbols = symbolsOfKind kind symbols := by
  have hordered : (symbolsOfKind kind symbols).Pairwise fun s t =>
      decide (s.kind.rank ≤ t.kind.rank) = true := by
    refine List.pairwise_of_forall_mem_list fun s hs t ht => ?_
    have hs := eq_of_beq (List.mem_filter.mp hs).2
    have ht := eq_of_beq (List.mem_filter.mp ht).2
    rw [hs, ht]
    exact decide_eq_true (Nat.le_refl _)
  -- The sort is stable, and what is in order already it keeps as a part.
  have hkept : (symbolsOfKind kind symbols).Sublist (ofSymbols name symbols).symbols :=
    List.sublist_mergeSort rank_le_trans rank_le_total hordered List.filter_sublist
  have hsame : symbolsOfKind kind (symbolsOfKind kind symbols) = symbolsOfKind kind symbols := by
    simp only [symbolsOfKind, List.filter_filter, Bool.and_self]
  have hsub : (symbolsOfKind kind symbols).Sublist
      (symbolsOfKind kind (ofSymbols name symbols).symbols) := by
    rw [← hsame]
    exact hkept.filter _
  exact (hsub.eq_of_length ((symbols_ofSymbols_perm name symbols).filter _).length_eq.symm).symm

/-- A package is its functions, then its constants, then its variables, each kind in the given
order. -/
theorem symbols_ofSymbols (name : String) (symbols : List Symbol) :
    (ofSymbols name symbols).symbols = byKind symbols := by
  rw [eq_byKind_of_pairwise (symbols_ofSymbols_pairwise name symbols), byKind,
    symbolsOfKind_ofSymbols, symbolsOfKind_ofSymbols, symbolsOfKind_ofSymbols]
  rfl

theorem symbols_ofSymbols_of_pairwise (name : String) {symbols : List Symbol}
    (h : symbols.Pairwise fun s t => s.kind.rank ≤ t.kind.rank) :
    (ofSymbols name symbols).symbols = symbols := by
  rw [symbols_ofSymbols, ← eq_byKind_of_pairwise h]

theorem ofKind_ofSymbols (name : String) (symbols : List Symbol) (kind : SymbolKind) :
    (ofSymbols name symbols).ofKind kind = symbolsOfKind kind symbols :=
  symbolsOfKind_ofSymbols name symbols kind

/-- A label stands for a function before a constant, and for a constant before a variable. -/
theorem get?_ofSymbols (name : String) (symbols : List Symbol) (label : String) :
    (ofSymbols name symbols).get? label
      = (firstOfKind? .function label symbols).or
          ((firstOfKind? .constant label symbols).or (firstOfKind? .variable label symbols)) := by
  have hfirst : ∀ kind, (symbolsOfKind kind symbols).find? (fun s => s.label == label)
      = firstOfKind? kind label symbols := by
    intro kind
    rw [symbolsOfKind, List.find?_filter, firstOfKind?]
    simp only [Bool.decide_and, Bool.decide_eq_true]
  rw [get?, symbols_ofSymbols, byKind, List.find?_append, List.find?_append, hfirst, hfirst, hfirst,
    Option.or_assoc]

theorem get?_eq_none_iff {package : Package} {label : String} :
    package.get? label = none ↔ ∀ symbol ∈ package.symbols, symbol.label ≠ label := by
  simp only [get?, List.find?_eq_none, beq_iff_eq, ne_eq]

/-- A package groups its members by kind and loses none. They are the given functions, then the given
constants, then the given variables, each group in the given order, and so the given symbols in another
order. The three groups are what a package lists of each kind, and the package of its own members is
the same package. A label stands for the first function given under it, or else for the first such
constant, or else for the first such variable, and for nothing exactly if no member has it. -/
theorem ofSymbols_groups_by_kind (name : String) (symbols : List Symbol) :
    let package := ofSymbols name symbols
    package.symbols = symbolsOfKind .function symbols ++ symbolsOfKind .constant symbols
        ++ symbolsOfKind .variable symbols
    ∧ package.symbols.Perm symbols
    ∧ package.functions = symbolsOfKind .function symbols
    ∧ package.constants = symbolsOfKind .constant symbols
    ∧ package.vars = symbolsOfKind .variable symbols
    ∧ package.functions.length + package.constants.length + package.vars.length
        = package.symbols.length
    ∧ ofSymbols package.name package.symbols = package
    ∧ ∀ label,
        package.get? label
          = (firstOfKind? .function label symbols).or
              ((firstOfKind? .constant label symbols).or (firstOfKind? .variable label symbols))
        ∧ (package.get? label = none ↔ ∀ symbol ∈ package.symbols, symbol.label ≠ label) := by
  intro package
  have hgroups : package.symbols = symbolsOfKind .function symbols
      ++ symbolsOfKind .constant symbols ++ symbolsOfKind .variable symbols :=
    symbols_ofSymbols name symbols
  have hfunctions : package.functions = symbolsOfKind .function symbols :=
    ofKind_ofSymbols name symbols .function
  have hconstants : package.constants = symbolsOfKind .constant symbols :=
    ofKind_ofSymbols name symbols .constant
  have hvars : package.vars = symbolsOfKind .variable symbols :=
    ofKind_ofSymbols name symbols .variable
  refine ⟨hgroups, symbols_ofSymbols_perm name symbols, hfunctions, hconstants, hvars, ?_, ?_,
    fun label => ⟨get?_ofSymbols name symbols label, get?_eq_none_iff⟩⟩
  · rw [hfunctions, hconstants, hvars, hgroups, List.length_append, List.length_append]
  · have hsame := symbols_ofSymbols_of_pairwise name (symbols_ofSymbols_pairwise name symbols)
    exact congrArg (Package.mk name) hsame

/-- A label goes to the function, although a variable and a constant of it were given before. -/
example :
    let run (kind : SymbolKind) (signature : String) : Symbol := ⟨"run", "run", signature, kind⟩
    (ofSymbols "a" [run .variable "1", run .constant "2", run .function "3", run .function "4"]).get?
      "run" = some (run .function "3") := by
  intro run
  rw [get?_ofSymbols]
  decide

end Package

end GoAssist
