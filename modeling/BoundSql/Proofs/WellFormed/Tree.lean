import BoundSql.Render

/-!
# Well-formed trees

What a dialect asks of a tree, one condition for each of its parts and none about the order in which
the parts are gone through, the aliases handed out before, or the level at which a statement stands.
Names can be quoted, bare words belong to their grammar, lists that need a member have one, queries
have as many columns as their place takes, and the clauses of a statement fit its target and each
other. `Node.WellFormed` collects the conditions of all parts of a node.
-/

set_option autoImplicit false
set_option relaxedAutoImplicit false

namespace BoundSql

/-! ### Conditions on single parts -/

/-- A name that can stand between the quotes of a dialect. -/
structure Dialect.Quotable (d : Dialect) (name : String) : Prop where
  /-- The name has characters. -/
  nonempty : name ≠ ""
  /-- The name cannot close its own quotes. -/
  quote_free : d.quote ∉ name.toList
  /-- The name does not hold NUL. -/
  nul_free : '\x00' ∉ name.toList
  /-- The name holds no percent sign where placeholders are written with one. -/
  percent_free : d.paramStyle = .format → '%' ∉ name.toList

/-- A column that can be written: the wildcard, or a name that can be quoted. -/
def Column.Writable (d : Dialect) (column : Column) : Prop :=
  column.name = "*" ∨ d.Quotable column.name

/-- A table whose name and schema can be quoted. -/
def Table.Writable (d : Dialect) (table : Table) : Prop :=
  (∀ schema ∈ table.schema, d.Quotable schema) ∧ d.Quotable table.name

/-- All columns are the table's own. -/
def Table.Owns (table : Table) (columns : List Column) : Prop :=
  ∀ column ∈ columns, column.relation = table.id

/-- A query that yields this many columns, as far as its width is known. -/
def Statement.FitsColumns (query : Statement) (columns : Nat) : Prop :=
  ∀ width ∈ query.width, width = columns

/-- A value for a single column: if it is a query, it yields one column, as far as is known. -/
def Expr.FitsColumn : Expr → Prop
  | .subquery query => query.FitsColumns 1
  | _ => True

/-- As many values as columns; a query yields the columns that single values leave to it, and there
is at least one of these. -/
def NewValues.FitColumns (columns : Nat) : NewValues → Prop
  | .each values => values.length = columns
  | .fromQuery source => source.FitsColumns columns
  | .queryThenEach source rest =>
    rest.length < columns ∧ source.FitsColumns (columns - rest.length)

/-- Rows for the named columns: none are named for a row of defaults, rows that are spelled out have
a value for each of them, and a query yields them unless none are named. -/
def NewRows.FitColumns (columns : Nat) : NewRows → Prop
  | .defaults => columns = 0
  | .listed rows => columns ≠ 0 ∧ rows ≠ [] ∧ ∀ row ∈ rows, row.length = columns
  | .fromQuery source => columns = 0 ∨ source.FitsColumns columns

/-- A response to a conflict that assigns to columns of the table, and to at least one. -/
def ConflictResponse.Targets (table : Table) : ConflictResponse → Prop
  | .doNothing => True
  | .doUpdate assignments _ => assignments ≠ [] ∧ table.Owns (assignments.map Assignment.column)

/-- An ON CONFLICT clause about columns of the table. -/
def ConflictClause.Targets (table : Table) (conflict : ConflictClause) : Prop :=
  table.Owns conflict.target ∧ conflict.response.Targets table

/-- A RETURNING list is empty where the dialect has no RETURNING. -/
def ResultItem.Returnable (d : Dialect) (items : List ResultItem) : Prop :=
  items = [] ∨ d.hasReturning = true

/-! ### Expressions, sources of rows and statements -/

variable (d : Dialect)

mutual

/-- An expression of which every part is as the dialect asks. -/
def Expr.WellFormed : Expr → Prop
  | .column reference => reference.Writable d
  | .literal _ | .star | .defaultValue => True
  | .excluded column => d.Quotable column
  | .unary _ operand => operand.WellFormed
  | .binary _ left right => left.WellFormed ∧ right.WellFormed
  | .connected _ operands => operands ≠ [] ∧ Expr.AllWellFormed operands
  | .call function _ arguments =>
    BareWord.function.allows function = true ∧ Expr.AllWellFormed arguments
  | .collate operand collation => operand.WellFormed ∧ d.Quotable collation
  | .subquery query => query.WellFormed
  | .inList tested _ candidates =>
    tested.WellFormed ∧ candidates ≠ [] ∧ Expr.AllWellFormed candidates
  | .inQuery tested _ query => tested.WellFormed ∧ query.FitsColumns 1 ∧ query.WellFormed
  | .between tested _ low high => tested.WellFormed ∧ low.WellFormed ∧ high.WellFormed
  | .cast operand typeName => operand.WellFormed ∧ BareWord.type.allows typeName = true
  | .caseWhen branches otherwise =>
    branches ≠ [] ∧ Expr.BranchesWellFormed branches ∧ Expr.WellFormed? otherwise
  | .existsQuery query => query.WellFormed

/-- A list of well-formed expressions. -/
def Expr.AllWellFormed : List Expr → Prop
  | [] => True
  | first :: rest => first.WellFormed ∧ Expr.AllWellFormed rest

/-- A well-formed expression, or none. -/
def Expr.WellFormed? : Option Expr → Prop
  | none => True
  | some present => present.WellFormed

/-- A list of well-formed values for single columns. -/
def Expr.ScalarsWellFormed : List Expr → Prop
  | [] => True
  | first :: rest => (first.FitsColumn ∧ first.WellFormed) ∧ Expr.ScalarsWellFormed rest

/-- Branches of a CASE whose conditions and results are well formed. -/
def Expr.BranchesWellFormed : List (Expr × Expr) → Prop
  | [] => True
  | (condition, result) :: rest =>
    condition.WellFormed ∧ result.WellFormed ∧ Expr.BranchesWellFormed rest

/-- Rows of well-formed expressions. -/
def Expr.RowsWellFormed : List (List Expr) → Prop
  | [] => True
  | first :: rest => Expr.AllWellFormed first ∧ Expr.RowsWellFormed rest

/-- A source of rows of which every part is as the dialect asks. A join has a condition exactly if
it is not a CROSS JOIN. -/
def RowSource.WellFormed : RowSource → Prop
  | .table source => source.Writable d
  | .cte _ explicit => ∀ name ∈ explicit, d.Quotable name
  | .derived _ query => query.WellFormed
  | .join kind left right condition =>
    left.WellFormed ∧ right.WellFormed ∧ (condition.isSome = true ↔ kind ≠ .cross) ∧
      Expr.WellFormed? condition

/-- A list of well-formed sources of rows. -/
def RowSource.AllWellFormed : List RowSource → Prop
  | [] => True
  | first :: rest => first.WellFormed ∧ RowSource.AllWellFormed rest

/-- A definition of a common table expression of which every part is as the dialect asks. -/
def Cte.WellFormed : Cte → Prop
  | ⟨_, explicit, columns, _, query⟩ =>
    (∀ name ∈ explicit, d.Quotable name) ∧ (∀ column ∈ columns, d.Quotable column) ∧
      query.WellFormed

/-- A list of well-formed definitions. -/
def Cte.AllWellFormed : List Cte → Prop
  | [] => True
  | first :: rest => first.WellFormed ∧ Cte.AllWellFormed rest

/-- An item of a select list or of a RETURNING clause of which every part is as the dialect asks. -/
def ResultItem.WellFormed : ResultItem → Prop
  | ⟨expr, result⟩ => expr.WellFormed ∧ ∀ name ∈ result, d.Quotable name

/-- A list of well-formed items. -/
def ResultItem.AllWellFormed : List ResultItem → Prop
  | [] => True
  | first :: rest => first.WellFormed ∧ ResultItem.AllWellFormed rest

/-- A sort key of which every part is as the dialect asks. -/
def OrderTerm.WellFormed : OrderTerm → Prop
  | ⟨expr, _, _⟩ => expr.WellFormed

/-- A list of well-formed sort keys. -/
def OrderTerm.AllWellFormed : List OrderTerm → Prop
  | [] => True
  | first :: rest => first.WellFormed ∧ OrderTerm.AllWellFormed rest

/-- An assignment of which every part is as the dialect asks. -/
def Assignment.WellFormed : Assignment → Prop
  | ⟨assigned, expr⟩ => assigned.Writable d ∧ expr.FitsColumn ∧ expr.WellFormed

/-- A list of well-formed assignments. -/
def Assignment.AllWellFormed : List Assignment → Prop
  | [] => True
  | first :: rest => first.WellFormed ∧ Assignment.AllWellFormed rest

/-- A response to a conflict of which every part is as the dialect asks. -/
def ConflictResponse.WellFormed : ConflictResponse → Prop
  | .doNothing => True
  | .doUpdate assignments filter =>
    Assignment.AllWellFormed assignments ∧ Expr.WellFormed? filter

/-- An ON CONFLICT clause of which every part is as the dialect asks. -/
def ConflictClause.WellFormed : ConflictClause → Prop
  | ⟨target, response⟩ => (∀ column ∈ target, column.Writable d) ∧ response.WellFormed

/-- A well-formed ON CONFLICT clause, or none. -/
def ConflictClause.WellFormed? : Option ConflictClause → Prop
  | none => True
  | some present => present.WellFormed

/-- Values of an UPDATE of which every part is as the dialect asks. -/
def NewValues.WellFormed : NewValues → Prop
  | .each values => Expr.ScalarsWellFormed values
  | .fromQuery source => source.WellFormed
  | .queryThenEach source rest => source.WellFormed ∧ Expr.ScalarsWellFormed rest

/-- Rows of an INSERT of which every part is as the dialect asks. -/
def NewRows.WellFormed : NewRows → Prop
  | .defaults => True
  | .listed rows => Expr.RowsWellFormed rows
  | .fromQuery source => source.WellFormed

/-- A SELECT of which every part is as the dialect asks. -/
def Select.WellFormed : Select → Prop
  | ⟨ctes, _, columns, sources, filter, grouping, having, ordering, _, _⟩ =>
    Cte.AllWellFormed ctes ∧ ResultItem.AllWellFormed columns ∧
      RowSource.AllWellFormed sources ∧ Expr.WellFormed? filter ∧ Expr.AllWellFormed grouping ∧
      Expr.WellFormed? having ∧ OrderTerm.AllWellFormed ordering

/-- An UPDATE of which every part is as the dialect asks: it assigns to columns of its table, to at
least one, and its values go with them. -/
def Update.WellFormed : Update → Prop
  | ⟨ctes, table, columns, values, sources, filter, returning⟩ =>
    (columns ≠ [] ∧ table.Owns columns ∧ values.FitColumns columns.length) ∧
      Cte.AllWellFormed ctes ∧ table.Writable d ∧ (∀ column ∈ columns, column.Writable d) ∧
      values.WellFormed ∧ RowSource.AllWellFormed sources ∧ Expr.WellFormed? filter ∧
      ResultItem.Returnable d returning ∧ ResultItem.AllWellFormed returning

/-- An INSERT of which every part is as the dialect asks: its columns are columns of its table, its
rows go with them, and it has an ON CONFLICT clause only where its target has an alias. -/
def Insert.WellFormed : Insert → Prop
  | ⟨ctes, table, columns, rows, conflict, returning⟩ =>
    (table.Owns columns ∧ rows.FitColumns columns.length ∧
        ∀ present ∈ conflict, d.aliasesInsert = true ∧ present.Targets table) ∧
      Cte.AllWellFormed ctes ∧ table.Writable d ∧ (∀ column ∈ columns, column.Writable d) ∧
      rows.WellFormed ∧ ConflictClause.WellFormed? conflict ∧
      ResultItem.Returnable d returning ∧ ResultItem.AllWellFormed returning

/-- A DELETE of which every part is as the dialect asks. -/
def Delete.WellFormed : Delete → Prop
  | ⟨ctes, table, sources, filter, returning⟩ =>
    Cte.AllWellFormed ctes ∧ table.Writable d ∧ RowSource.AllWellFormed sources ∧
      Expr.WellFormed? filter ∧ ResultItem.Returnable d returning ∧
      ResultItem.AllWellFormed returning

/-- A statement of which every part is as the dialect asks. -/
def Statement.WellFormed : Statement → Prop
  | .select statement => statement.WellFormed
  | .update statement => statement.WellFormed
  | .insert statement => statement.WellFormed
  | .delete statement => statement.WellFormed
termination_by structural statement => statement

end

/-- A node of which every part is as the dialect asks. -/
def Node.WellFormed : Node → Prop
  | .statement tree => tree.WellFormed d
  | .expr tree => tree.WellFormed d
  | .item tree => tree.WellFormed d
  | .order tree => tree.WellFormed d
  | .assignment tree => tree.WellFormed d
  | .source tree => tree.WellFormed d
  | .conflict tree => tree.WellFormed d

/-! ### Members of well-formed lists -/

variable {d}

/-- Each of several values is well formed and fits one column. -/
theorem Expr.ScalarsWellFormed.of_mem {values : List Expr} (h : ScalarsWellFormed d values)
    {value : Expr} (hvalue : value ∈ values) : value.FitsColumn ∧ value.WellFormed d := by
  induction values with
  | nil => cases hvalue
  | cons first rest ih =>
    rcases List.mem_cons.mp hvalue with rfl | hrest
    · exact h.1
    · exact ih h.2 hrest

/-- Each of several results is well formed. -/
theorem ResultItem.AllWellFormed.of_mem {items : List ResultItem} (h : AllWellFormed d items)
    {item : ResultItem} (hitem : item ∈ items) : item.WellFormed d := by
  induction items with
  | nil => cases hitem
  | cons first rest ih =>
    rcases List.mem_cons.mp hitem with rfl | hrest
    · exact h.1
    · exact ih h.2 hrest

/-- Each of several assignments is well formed. -/
theorem Assignment.AllWellFormed.of_mem {assignments : List Assignment}
    (h : AllWellFormed d assignments) {assignment : Assignment}
    (hassignment : assignment ∈ assignments) : assignment.WellFormed d := by
  induction assignments with
  | nil => cases hassignment
  | cons first rest ih =>
    rcases List.mem_cons.mp hassignment with rfl | hrest
    · exact h.1
    · exact ih h.2 hrest

end BoundSql
