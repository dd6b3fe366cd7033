import BoundSql.Proofs.Reading.Tree

/-!
# Reduced expressions

Some expressions that are not the same are written alike outside of statements: a connective with
one operand is written as this operand, a column is written without its relation, and the column
named `*` is written as the wildcard. `Expr.reduced` replaces each of these forms by the simpler
one. It changes nothing that is written (`Expr.read_reduced`).
-/

set_option autoImplicit false
set_option relaxedAutoImplicit false

namespace BoundSql

/-! ### Expressions without statements -/

mutual

/-- An expression that contains no statement. -/
def Expr.StatementFree : Expr → Prop
  | .column _ | .literal _ | .star | .defaultValue | .excluded _ => True
  | .unary _ operand => operand.StatementFree
  | .binary _ left right => left.StatementFree ∧ right.StatementFree
  | .connected _ operands => Expr.AllStatementFree operands
  | .call _ _ arguments => Expr.AllStatementFree arguments
  | .collate operand _ => operand.StatementFree
  | .inList tested _ candidates => tested.StatementFree ∧ Expr.AllStatementFree candidates
  | .between tested _ low high => tested.StatementFree ∧ low.StatementFree ∧ high.StatementFree
  | .cast operand _ => operand.StatementFree
  | .caseWhen branches otherwise =>
    Expr.BranchesStatementFree branches ∧ Expr.StatementFree? otherwise
  | .subquery _ | .inQuery _ _ _ | .existsQuery _ => False

/-- A list of expressions that contain no statement. -/
def Expr.AllStatementFree : List Expr → Prop
  | [] => True
  | first :: rest => first.StatementFree ∧ Expr.AllStatementFree rest

/-- An expression that contains no statement, or none. -/
def Expr.StatementFree? : Option Expr → Prop
  | none => True
  | some present => present.StatementFree

/-- Branches of a CASE that contain no statement. -/
def Expr.BranchesStatementFree : List (Expr × Expr) → Prop
  | [] => True
  | (condition, result) :: rest =>
    condition.StatementFree ∧ result.StatementFree ∧ Expr.BranchesStatementFree rest

end

namespace Expr

/-- Expressions have no statement inside exactly if none of them has. -/
theorem allStatementFree_iff {items : List Expr} :
    AllStatementFree items ↔ ∀ item ∈ items, item.StatementFree := by
  induction items with
  | nil => simp [AllStatementFree]
  | cons first rest ih => simp [AllStatementFree, ih]

/-- The branches of a CASE have no statement inside exactly if no condition and no result has. -/
theorem branchesStatementFree_iff {branches : List (Expr × Expr)} :
    BranchesStatementFree branches ↔
      ∀ branch ∈ branches, branch.1.StatementFree ∧ branch.2.StatementFree := by
  induction branches with
  | nil => simp [BranchesStatementFree]
  | cons first rest ih => simp [BranchesStatementFree, ih, and_assoc]

end Expr

/-! ### The reduced form -/

/-- The column without its relation, or the wildcard. -/
def Column.reduced (column : Column) : Expr :=
  if column.isWildcard then .star else .column ⟨default, column.name⟩

mutual

/-- The expression in its simplest form: without connectives that have one operand, without the
relations of columns, and with the wildcard for the columns named `*`. Statements are left as they
are. -/
def Expr.reduced : Expr → Expr
  | .column reference => reference.reduced
  | .literal value => .literal value
  | .star => .star
  | .defaultValue => .defaultValue
  | .excluded name => .excluded name
  | .unary op operand => .unary op operand.reduced
  | .binary op left right => .binary op left.reduced right.reduced
  | .connected connective operands =>
    match Expr.reducedEach operands with
    | [only] => only
    | several => .connected connective several
  | .call function distinct arguments => .call function distinct (Expr.reducedEach arguments)
  | .collate operand collation => .collate operand.reduced collation
  | .subquery query => .subquery query
  | .inList tested negated candidates =>
    .inList tested.reduced negated (Expr.reducedEach candidates)
  | .inQuery tested negated query => .inQuery tested.reduced negated query
  | .between tested negated low high => .between tested.reduced negated low.reduced high.reduced
  | .cast operand typeName => .cast operand.reduced typeName
  | .caseWhen branches otherwise =>
    .caseWhen (Expr.reducedBranches branches) (Expr.reduced? otherwise)
  | .existsQuery query => .existsQuery query

/-- Each expression of a list in its simplest form. -/
def Expr.reducedEach : List Expr → List Expr
  | [] => []
  | first :: rest => first.reduced :: Expr.reducedEach rest

/-- An expression in its simplest form, or none. -/
def Expr.reduced? : Option Expr → Option Expr
  | none => none
  | some present => some present.reduced

/-- The branches of a CASE in their simplest form. -/
def Expr.reducedBranches : List (Expr × Expr) → List (Expr × Expr)
  | [] => []
  | (condition, result) :: rest =>
    (condition.reduced, result.reduced) :: Expr.reducedBranches rest

end

namespace Expr

/-- A list of expressions is reduced one by one. -/
theorem reducedEach_eq_map (items : List Expr) : reducedEach items = items.map reduced := by
  induction items with
  | nil => rfl
  | cons first rest ih => rw [reducedEach, ih, List.map_cons]

/-- The branches of a CASE are reduced one by one. -/
theorem reducedBranches_eq_map (branches : List (Expr × Expr)) :
    reducedBranches branches = branches.map fun branch ↦ (branch.1.reduced, branch.2.reduced) := by
  induction branches with
  | nil => rfl
  | cons first rest ih => rw [reducedBranches, ih, List.map_cons]

theorem reduced?_eq_map (present : Option Expr) : reduced? present = present.map reduced := by
  cases present <;> rfl

end Expr

/-! ### What is read from a reduced expression -/

section Reading

variable {α : Type} (r : Reading α)

/-- Outside of statements a column is read without its relation. -/
theorem Column.read_reduced (column : Column) :
    column.reduced.read r false = column.read r false := by
  cases hwildcard : column.isWildcard with
  | true => simp [Column.reduced, Expr.read, Column.read, Column.readBare, hwildcard]
  | false =>
    have hsame : Column.isWildcard ⟨default, column.name⟩ = false := hwildcard
    simp [Column.reduced, Expr.read, Column.read, Column.readBare, hwildcard, hsame]

mutual

/-- Outside of statements, nothing that is written changes. -/
theorem Expr.read_reduced : (expr : Expr) → expr.reduced.read r false = expr.read r false
  | .column reference => reference.read_reduced r
  | .literal _ | .star | .defaultValue | .excluded _ => rfl
  | .unary op operand => by
    rw [Expr.reduced, Expr.read, Expr.read, Expr.read_reduced operand]
  | .binary op left right => by
    simp only [Expr.reduced, Expr.read, Expr.read_reduced left, Expr.read_reduced right]
  | .connected connective [] => rfl
  | .connected connective [only] => by
    rw [Expr.reduced, Expr.read, Expr.reducedEach, Expr.reducedEach, Expr.readEach, Expr.readEach,
      Expr.read_reduced only]
  | .connected connective (first :: second :: rest) => by
    simp only [Expr.reduced, Expr.read, Expr.reducedEach, Expr.readEach, Expr.read_reduced first,
      Expr.read_reduced second, Expr.readEach_reducedEach rest]
  | .call function distinct arguments => by
    simp only [Expr.reduced, Expr.read, Expr.readEach_reducedEach arguments]
  | .collate operand collation => by
    simp only [Expr.reduced, Expr.read, Expr.read_reduced operand]
  | .subquery query => rfl
  | .inList tested negated candidates => by
    simp only [Expr.reduced, Expr.read, Expr.read_reduced tested,
      Expr.readEach_reducedEach candidates]
  | .inQuery tested negated query => by
    simp only [Expr.reduced, Expr.read, Expr.read_reduced tested]
  | .between tested negated low high => by
    simp only [Expr.reduced, Expr.read, Expr.read_reduced tested, Expr.read_reduced low,
      Expr.read_reduced high]
  | .cast operand typeName => by
    simp only [Expr.reduced, Expr.read, Expr.read_reduced operand]
  | .caseWhen branches otherwise => by
    simp only [Expr.reduced, Expr.read, Expr.readBranches_reducedBranches branches,
      Expr.read?_reduced? otherwise]
  | .existsQuery query => rfl

/-- Reducing a list of expressions does not change what is read. -/
theorem Expr.readEach_reducedEach : (items : List Expr) →
    Expr.readEach r false (Expr.reducedEach items) = Expr.readEach r false items
  | [] => rfl
  | first :: rest => by
    rw [Expr.reducedEach, Expr.readEach, Expr.readEach, Expr.read_reduced first,
      Expr.readEach_reducedEach rest]

theorem Expr.read?_reduced? : (present : Option Expr) →
    Expr.read? r false (Expr.reduced? present) = Expr.read? r false present
  | none => rfl
  | some present => by rw [Expr.reduced?, Expr.read?, Expr.read?, Expr.read_reduced present]

/-- Reducing the branches of a CASE does not change what is read. -/
theorem Expr.readBranches_reducedBranches : (branches : List (Expr × Expr)) →
    Expr.readBranches r false (Expr.reducedBranches branches) = Expr.readBranches r false branches
  | [] => rfl
  | (condition, result) :: rest => by
    rw [Expr.reducedBranches, Expr.readBranches, Expr.readBranches, Expr.read_reduced condition,
      Expr.read_reduced result, Expr.readBranches_reducedBranches rest]

end

end Reading

end BoundSql
