import BoundSql.Render

/-!
# Relabeled trees

A `Relabeling` replaces the values, the names and the identities that a tree carries and keeps its
shape: `Node.relabel` goes through every part of a tree, at any depth. Different relations stay
different, and a column that does not stand for all columns of its relation is not renamed to `*`.
-/

set_option autoImplicit false
set_option relaxedAutoImplicit false

namespace BoundSql

/-- What replaces the values, the names and the identities of a tree. -/
structure Relabeling where
  /-- What replaces a bound value. -/
  value : Value → Value := fun bound ↦ bound
  /-- What replaces a name. The wildcard among the columns of a relation is not a name. -/
  name : String → String := fun supplied ↦ supplied
  /-- What replaces the identity of a relation. -/
  relation : Identity → Identity := fun identity ↦ identity
  /-- No name turns into the wildcard. -/
  name_ne_wildcard : ∀ supplied, supplied ≠ "*" → name supplied ≠ "*" := by simp
  /-- Relations stay apart. -/
  relation_injective : ∀ first second, relation first = relation second → first = second := by simp

namespace Relabeling

/-- The relabeling that replaces bound values only. -/
def ofValues (f : Value → Value) : Relabeling where
  value := f

/-- The relabeling that makes all names one. -/
def forgetNames : Relabeling where
  name _ := ""

end Relabeling

/-! ### Names -/

variable (m : Relabeling)

/-- A table with its name, its schema and its identity replaced. -/
def Table.relabel (table : Table) : Table :=
  ⟨m.relation table.id, m.name table.name, table.schema.map m.name⟩

/-- A column with its name and its relation replaced. The wildcard stays the wildcard. -/
def Column.relabel (column : Column) : Column :=
  ⟨m.relation column.relation, if column.isWildcard then "*" else m.name column.name⟩

/-! ### Expressions, sources of rows and statements -/

mutual

/-- An expression with all that it carries replaced. -/
def Expr.relabel : Expr → Expr
  | .column reference => .column (reference.relabel m)
  | .literal value => .literal (m.value value)
  | .star => .star
  | .defaultValue => .defaultValue
  | .excluded column => .excluded (m.name column)
  | .unary op operand => .unary op operand.relabel
  | .binary op left right => .binary op left.relabel right.relabel
  | .connected connective operands => .connected connective (Expr.relabelEach operands)
  | .call function distinct arguments => .call function distinct (Expr.relabelEach arguments)
  | .collate operand collation => .collate operand.relabel (m.name collation)
  | .subquery query => .subquery query.relabel
  | .inList tested negated candidates =>
    .inList tested.relabel negated (Expr.relabelEach candidates)
  | .inQuery tested negated query => .inQuery tested.relabel negated query.relabel
  | .between tested negated low high =>
    .between tested.relabel negated low.relabel high.relabel
  | .cast operand typeName => .cast operand.relabel typeName
  | .caseWhen branches otherwise =>
    .caseWhen (Expr.relabelBranches branches) (Expr.relabel? otherwise)
  | .existsQuery query => .existsQuery query.relabel

/-- A list of expressions with all that they carry replaced. -/
def Expr.relabelEach : List Expr → List Expr
  | [] => []
  | first :: rest => first.relabel :: Expr.relabelEach rest

/-- An expression that may be absent, with all that it carries replaced. -/
def Expr.relabel? : Option Expr → Option Expr
  | none => none
  | some present => some present.relabel

/-- The branches of a CASE with all that they carry replaced. -/
def Expr.relabelBranches : List (Expr × Expr) → List (Expr × Expr)
  | [] => []
  | (condition, result) :: rest =>
    (condition.relabel, result.relabel) :: Expr.relabelBranches rest

/-- Rows of expressions with all that they carry replaced. -/
def Expr.relabelRows : List (List Expr) → List (List Expr)
  | [] => []
  | first :: rest => Expr.relabelEach first :: Expr.relabelRows rest

/-- A source of rows with all that it carries replaced. -/
def RowSource.relabel : RowSource → RowSource
  | .table source => .table (source.relabel m)
  | .cte id explicit => .cte (m.relation id) (explicit.map m.name)
  | .derived id query => .derived (m.relation id) query.relabel
  | .join kind left right condition =>
    .join kind left.relabel right.relabel (Expr.relabel? condition)

/-- A list of sources of rows with all that they carry replaced. -/
def RowSource.relabelEach : List RowSource → List RowSource
  | [] => []
  | first :: rest => first.relabel :: RowSource.relabelEach rest

/-- The definition of a common table expression with all that it carries replaced. -/
def Cte.relabel : Cte → Cte
  | ⟨id, explicit, columns, recursive, query⟩ =>
    ⟨m.relation id, explicit.map m.name, columns.map m.name, recursive, query.relabel⟩

/-- A list of definitions with all that they carry replaced. -/
def Cte.relabelEach : List Cte → List Cte
  | [] => []
  | first :: rest => first.relabel :: Cte.relabelEach rest

/-- An item of a select list or of a RETURNING clause with all that it carries replaced. -/
def ResultItem.relabel : ResultItem → ResultItem
  | ⟨expr, result⟩ => ⟨expr.relabel, result.map m.name⟩

/-- A list of items with all that they carry replaced. -/
def ResultItem.relabelEach : List ResultItem → List ResultItem
  | [] => []
  | first :: rest => first.relabel :: ResultItem.relabelEach rest

/-- A sort key with all that it carries replaced. -/
def OrderTerm.relabel : OrderTerm → OrderTerm
  | ⟨expr, direction, nulls⟩ => ⟨expr.relabel, direction, nulls⟩

/-- A list of sort keys with all that they carry replaced. -/
def OrderTerm.relabelEach : List OrderTerm → List OrderTerm
  | [] => []
  | first :: rest => first.relabel :: OrderTerm.relabelEach rest

/-- An assignment with all that it carries replaced. -/
def Assignment.relabel : Assignment → Assignment
  | ⟨assigned, expr⟩ => ⟨assigned.relabel m, expr.relabel⟩

/-- A list of assignments with all that they carry replaced. -/
def Assignment.relabelEach : List Assignment → List Assignment
  | [] => []
  | first :: rest => first.relabel :: Assignment.relabelEach rest

/-- What is done on a conflict, with all that it carries replaced. -/
def ConflictResponse.relabel : ConflictResponse → ConflictResponse
  | .doNothing => .doNothing
  | .doUpdate assignments filter =>
    .doUpdate (Assignment.relabelEach assignments) (Expr.relabel? filter)

/-- An ON CONFLICT clause with all that it carries replaced. -/
def ConflictClause.relabel : ConflictClause → ConflictClause
  | ⟨target, response⟩ => ⟨target.map (Column.relabel m), response.relabel⟩

/-- An ON CONFLICT clause that may be absent, with all that it carries replaced. -/
def ConflictClause.relabel? : Option ConflictClause → Option ConflictClause
  | none => none
  | some present => some present.relabel

/-- The values of an UPDATE with all that they carry replaced. -/
def NewValues.relabel : NewValues → NewValues
  | .each values => .each (Expr.relabelEach values)
  | .fromQuery source => .fromQuery source.relabel
  | .queryThenEach source rest => .queryThenEach source.relabel (Expr.relabelEach rest)

/-- The rows of an INSERT with all that they carry replaced. -/
def NewRows.relabel : NewRows → NewRows
  | .defaults => .defaults
  | .listed rows => .listed (Expr.relabelRows rows)
  | .fromQuery source => .fromQuery source.relabel

/-- A SELECT with all that it carries replaced. -/
def Select.relabel : Select → Select
  | ⟨ctes, distinct, columns, sources, filter, grouping, having, ordering, limit, offset⟩ =>
    ⟨Cte.relabelEach ctes, distinct, ResultItem.relabelEach columns,
      RowSource.relabelEach sources, Expr.relabel? filter, Expr.relabelEach grouping,
      Expr.relabel? having, OrderTerm.relabelEach ordering, limit, offset⟩

/-- An UPDATE with all that it carries replaced. -/
def Update.relabel : Update → Update
  | ⟨ctes, table, columns, values, sources, filter, returning⟩ =>
    ⟨Cte.relabelEach ctes, table.relabel m, columns.map (Column.relabel m), values.relabel,
      RowSource.relabelEach sources, Expr.relabel? filter, ResultItem.relabelEach returning⟩

/-- An INSERT with all that it carries replaced. -/
def Insert.relabel : Insert → Insert
  | ⟨ctes, table, columns, rows, conflict, returning⟩ =>
    ⟨Cte.relabelEach ctes, table.relabel m, columns.map (Column.relabel m), rows.relabel,
      ConflictClause.relabel? conflict, ResultItem.relabelEach returning⟩

/-- A DELETE with all that it carries replaced. -/
def Delete.relabel : Delete → Delete
  | ⟨ctes, table, sources, filter, returning⟩ =>
    ⟨Cte.relabelEach ctes, table.relabel m, RowSource.relabelEach sources, Expr.relabel? filter,
      ResultItem.relabelEach returning⟩

/-- A statement with all that it carries replaced. -/
def Statement.relabel : Statement → Statement
  | .select statement => .select statement.relabel
  | .update statement => .update statement.relabel
  | .insert statement => .insert statement.relabel
  | .delete statement => .delete statement.relabel
termination_by structural statement => statement

end

/-- A node with all that it carries replaced. -/
def Node.relabel : Node → Node
  | .statement tree => .statement (tree.relabel m)
  | .expr tree => .expr (tree.relabel m)
  | .item tree => .item (tree.relabel m)
  | .order tree => .order (tree.relabel m)
  | .assignment tree => .assignment (tree.relabel m)
  | .source tree => .source (tree.relabel m)
  | .conflict tree => .conflict (tree.relabel m)

/-! ### What a relabeling keeps -/

variable {m}

/-- A column is the wildcard after relabeling exactly if it was before. -/
@[simp]
theorem Column.isWildcard_relabel (column : Column) :
    (column.relabel m).isWildcard = column.isWildcard := by
  unfold Column.relabel
  by_cases hwildcard : column.name = "*"
  · simp [Column.isWildcard, hwildcard]
  · simp [Column.isWildcard, hwildcard, m.name_ne_wildcard column.name hwildcard]

/-- A list of expressions is relabeled one by one. -/
theorem Expr.relabelEach_eq_map (exprs : List Expr) :
    Expr.relabelEach m exprs = exprs.map (Expr.relabel m) := by
  induction exprs with
  | nil => rfl
  | cons first rest ih => simp [Expr.relabelEach, ih]

/-- No expression is added and none is lost. -/
theorem Expr.length_relabelEach (exprs : List Expr) :
    (Expr.relabelEach m exprs).length = exprs.length := by
  rw [Expr.relabelEach_eq_map, List.length_map]

/-- Rows are relabeled cell by cell. -/
theorem Expr.relabelRows_eq_map (rows : List (List Expr)) :
    Expr.relabelRows m rows = rows.map (List.map (Expr.relabel m)) := by
  induction rows with
  | nil => rfl
  | cons first rest ih => simp [Expr.relabelRows, Expr.relabelEach_eq_map, ih]

/-- A list of definitions is relabeled one by one. -/
theorem Cte.relabelEach_eq_map (ctes : List Cte) :
    Cte.relabelEach m ctes = ctes.map (Cte.relabel m) := by
  induction ctes with
  | nil => rfl
  | cons first rest ih => simp [Cte.relabelEach, ih]

/-- A list of items is relabeled one by one. -/
theorem ResultItem.relabelEach_eq_map (items : List ResultItem) :
    ResultItem.relabelEach m items = items.map (ResultItem.relabel m) := by
  induction items with
  | nil => rfl
  | cons first rest ih => simp [ResultItem.relabelEach, ih]

theorem ResultItem.isEmpty_relabelEach (items : List ResultItem) :
    (ResultItem.relabelEach m items).isEmpty = items.isEmpty := by
  rw [ResultItem.relabelEach_eq_map, List.isEmpty_map]

/-- A list of assignments is relabeled one by one. -/
theorem Assignment.relabelEach_eq_map (assignments : List Assignment) :
    Assignment.relabelEach m assignments = assignments.map (Assignment.relabel m) := by
  induction assignments with
  | nil => rfl
  | cons first rest ih => simp [Assignment.relabelEach, ih]

/-- WITH stays RECURSIVE, or plain, under any relabeling. -/
theorem Cte.any_recursive_relabelEach (ctes : List Cte) :
    (Cte.relabelEach m ctes).any Cte.recursive = ctes.any Cte.recursive := by
  have hrecursive (cte : Cte) : (cte.relabel m).recursive = cte.recursive := by
    cases cte
    rfl
  simp only [Cte.relabelEach_eq_map, List.any_map, Function.comp_def, hrecursive]

end BoundSql
