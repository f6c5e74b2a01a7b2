/-!
# Packages and their members

A package lists its functions first, then its constants, then its variables, and keeps the given
order inside each kind. `symbols_ofSymbols_perm` says that no member is lost or invented and
`symbols_ofSymbols_pairwise` that the kinds stand in order.
-/

namespace GoAssist

/-- The kind of a package member. -/
inductive SymbolKind where
  | function
  | constant
  | variable
  deriving DecidableEq, Repr, Inhabited

/-- The place of a kind in a package's list. -/
def SymbolKind.rank : SymbolKind → Nat
  | .function => 0
  | .constant => 1
  | .variable => 2

/-- A named value or function that a package offers. -/
structure Symbol where
  /-- The name. -/
  label : String
  /-- The text that a completion inserts. -/
  template : String
  /-- The declaration, as shown to the user. -/
  signature : String
  /-- What it is. -/
  kind : SymbolKind
  deriving DecidableEq, Repr, Inhabited

/-- A package and its members. -/
structure Package where
  /-- The name. -/
  name : String
  /-- The members, in the order in which they are offered. -/
  symbols : List Symbol
  deriving DecidableEq, Repr, Inhabited

namespace Package

/-- The package with the given members, brought into order by kind. -/
def ofSymbols (name : String) (symbols : List Symbol) : Package :=
  ⟨name, symbols.mergeSort fun s t => decide (s.kind.rank ≤ t.kind.rank)⟩

/-- The members of one kind. -/
def ofKind (package : Package) (kind : SymbolKind) : List Symbol :=
  package.symbols.filter fun s => s.kind == kind

/-- The functions. -/
def functions (package : Package) : List Symbol :=
  package.ofKind .function

/-- The constants. -/
def constants (package : Package) : List Symbol :=
  package.ofKind .constant

/-- The variables. -/
def vars (package : Package) : List Symbol :=
  package.ofKind .variable

/-- The first member with a label. -/
def get? (package : Package) (label : String) : Option Symbol :=
  package.symbols.find? fun s => s.label == label

/-! ## The order by kind -/

theorem rank_le_trans (s t u : Symbol) (hst : decide (s.kind.rank ≤ t.kind.rank) = true)
    (htu : decide (t.kind.rank ≤ u.kind.rank) = true) :
    decide (s.kind.rank ≤ u.kind.rank) = true :=
  decide_eq_true (Nat.le_trans (of_decide_eq_true hst) (of_decide_eq_true htu))

theorem rank_le_total (s t : Symbol) :
    (decide (s.kind.rank ≤ t.kind.rank) || decide (t.kind.rank ≤ s.kind.rank)) = true := by
  rw [Bool.or_eq_true, decide_eq_true_eq, decide_eq_true_eq]
  exact Nat.le_total _ _

theorem symbols_ofSymbols_perm (name : String) (symbols : List Symbol) :
    (ofSymbols name symbols).symbols.Perm symbols :=
  List.mergeSort_perm _ _

theorem symbols_ofSymbols_pairwise (name : String) (symbols : List Symbol) :
    (ofSymbols name symbols).symbols.Pairwise fun s t => s.kind.rank ≤ t.kind.rank := by
  refine (List.pairwise_mergeSort rank_le_trans rank_le_total symbols).imp ?_
  intro s t h
  exact of_decide_eq_true h

end Package

end GoAssist
