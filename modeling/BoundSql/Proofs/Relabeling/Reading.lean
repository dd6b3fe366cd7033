import BoundSql.Proofs.Reading.Tree
import BoundSql.Proofs.Relabeling.Tree

/-!
# Reading a relabeled tree

Whatever is read from a relabeled tree could have been read from the tree itself, by replacing
values, names and identities as they are met (`Node.read_relabel`). In particular a relabeling
replaces every value and every name that is read, and nothing else changes.
-/

set_option autoImplicit false
set_option relaxedAutoImplicit false

namespace BoundSql

variable {α : Type}

/-- The reading that replaces what it meets before it takes something from it. -/
def Reading.relabeled (r : Reading α) (m : Relabeling) : Reading α where
  order := r.order
  text := r.text
  value bound := r.value (m.value bound)
  name supplied := r.name (m.name supplied)
  mention relation := r.mention (m.relation relation)
  visit relation := r.visit (m.relation relation)
  operator := r.operator
  bounds := r.bounds
  tableAlias relation := r.tableAlias (m.relation relation)
  targetAlias relation := r.targetAlias (m.relation relation)

variable {r : Reading α} {m : Relabeling}

/-! ### Combinators -/

namespace Reading

@[simp]
theorem relabeled_order : (r.relabeled m).order = r.order := rfl

@[simp]
theorem relabeled_text : (r.relabeled m).text = r.text := rfl

@[simp]
theorem relabeled_name (supplied : String) :
    (r.relabeled m).name supplied = r.name (m.name supplied) := rfl

@[simp]
theorem relabeled_operator : (r.relabeled m).operator = r.operator := rfl

@[simp]
theorem relabeled_bounds : (r.relabeled m).bounds = r.bounds := rfl

@[simp]
theorem relabeled_tableAlias (relation : Identity) :
    (r.relabeled m).tableAlias relation = r.tableAlias (m.relation relation) := rfl

@[simp]
theorem relabeled_targetAlias (relation : Identity) :
    (r.relabeled m).targetAlias relation = r.targetAlias (m.relation relation) := rfl

@[simp]
theorem relabeled_parenthesized (body : List α) :
    (r.relabeled m).parenthesized body = r.parenthesized body := rfl

/-- A relabeling does not touch the separators of a list. -/
@[simp]
theorem relabeled_separated (separator : String) (items : List (List α)) :
    (r.relabeled m).separated separator items = r.separated separator items := by
  fun_induction separated r separator items with
  | case1 => rfl
  | case2 => rfl
  | case3 first rest hrest ih =>
    cases rest with
    | nil => exact absurd rfl hrest
    | cons second rest => simp only [separated, relabeled_text, ih]

@[simp]
theorem relabeled_commaSeparated (items : List (List α)) :
    (r.relabeled m).commaSeparated items = r.commaSeparated items :=
  relabeled_separated ", " items

/-- A relabeling does not touch the keyword of a clause. -/
@[simp]
theorem relabeled_clause (keyword : String) (body : Option (List α)) :
    (r.relabeled m).clause keyword body = r.clause keyword body := by
  cases body <;> rfl

/-- A relabeling does not touch the keyword of a list clause. -/
@[simp]
theorem relabeled_listClause (keyword : String) (items : List (List α)) :
    (r.relabeled m).listClause keyword items = r.listClause keyword items := by
  simp only [listClause, relabeled_commaSeparated]
  rfl

end Reading

/-! ### Names -/

/-- A relabeled bare column is read as the column is, with its name replaced. -/
@[simp]
theorem Column.readBare_relabel (column : Column) :
    (column.relabel m).readBare r = column.readBare (r.relabeled m) := by
  unfold Column.readBare
  rw [Column.isWildcard_relabel]
  split
  · rfl
  · simp_all [Column.relabel]

/-- A relabeled column is read as the column is, with its name and its relation replaced. -/
@[simp]
theorem Column.read_relabel (inside : Bool) (column : Column) :
    (column.relabel m).read r inside = column.read (r.relabeled m) inside := by
  simp only [Column.read, Column.readBare_relabel]
  rfl

/-- A relabeled table is named as the table is, with its name and its schema replaced. -/
@[simp]
theorem Table.readName_relabel (table : Table) :
    (table.relabel m).readName r = table.readName (r.relabeled m) := by
  obtain ⟨id, name, schema⟩ := table
  cases schema <;> rfl

/-- A relabeled table is read as the table is, with its relation replaced as well. -/
@[simp]
theorem Table.read_relabel (table : Table) :
    (table.relabel m).read r = table.read (r.relabeled m) := by
  simp only [Table.read, Table.readName_relabel]
  rfl

/-- A relabeled definition is named by its replaced name, or by the alias of its new identity. -/
@[simp]
theorem Cte.readName_relabel (id : Identity) (name : Option String) :
    Cte.readName r (m.relation id) (name.map m.name) = Cte.readName (r.relabeled m) id name := by
  cases name <;> rfl

/-- A relabeling does not touch the keyword of a WITH list. -/
@[simp]
theorem Cte.readList_relabeled (recursive : Bool) (definitions : List (List α)) :
    Cte.readList (r.relabeled m) recursive definitions = Cte.readList r recursive definitions := by
  simp [Cte.readList]

/-- Relabeled columns are paired with the values that the columns were paired with. -/
@[simp]
theorem Assignment.readPairs_relabel (columns : List Column) (values : List (List α)) :
    Assignment.readPairs r (columns.map (Column.relabel m)) values =
      Assignment.readPairs (r.relabeled m) columns values := by
  induction columns generalizing values with
  | nil => cases values <;> rfl
  | cons assigned columns ih =>
    cases values with
    | nil => simp [Assignment.readPairs, Function.comp_def]
    | cons value values => simp [Assignment.readPairs, ih]

/-- Relabeled columns are assigned the query that the columns were assigned. -/
@[simp]
theorem Assignment.readQuery_relabel (columns : List Column) (query : List α) :
    Assignment.readQuery r (columns.map (Column.relabel m)) query =
      Assignment.readQuery (r.relabeled m) columns query := by
  simp [Assignment.readQuery, Function.comp_def]

/-! ### Expressions, sources of rows and statements -/

-- Induction on the tree, in the clause order of the reading: both orders go through the same
-- clauses, so the order is never looked at.
mutual

/-- A relabeled expression is read as the expression is, with what it carries replaced. -/
theorem Expr.read_relabel (inside : Bool) : (expr : Expr) →
    (expr.relabel m).read r inside = expr.read (r.relabeled m) inside
  | .column reference => Column.read_relabel inside reference
  | .literal _ => rfl
  | .star => rfl
  | .defaultValue => rfl
  | .excluded _ => rfl
  | .unary op operand => by simp [Expr.relabel, Expr.read, Expr.read_relabel inside operand]
  | .binary op left right => by
    simp [Expr.relabel, Expr.read, Expr.read_relabel inside left, Expr.read_relabel inside right]
  | .connected connective operands => by
    simp [Expr.relabel, Expr.read, Expr.readEach_relabelEach inside operands]
  | .call function distinct arguments => by
    simp [Expr.relabel, Expr.read, Expr.readEach_relabelEach inside arguments]
  | .collate operand collation => by
    simp [Expr.relabel, Expr.read, Expr.read_relabel inside operand]
  | .subquery query => by simp [Expr.relabel, Expr.read, Statement.read_relabel query]
  | .inList tested negated candidates => by
    simp [Expr.relabel, Expr.read, Expr.read_relabel inside tested,
      Expr.readEach_relabelEach inside candidates]
  | .inQuery tested negated query => by
    simp [Expr.relabel, Expr.read, Expr.read_relabel inside tested, Statement.read_relabel query]
  | .between tested negated low high => by
    simp [Expr.relabel, Expr.read, Expr.read_relabel inside tested, Expr.read_relabel inside low,
      Expr.read_relabel inside high]
  | .cast operand typeName => by
    simp [Expr.relabel, Expr.read, Expr.read_relabel inside operand]
  | .caseWhen branches otherwise => by
    simp [Expr.relabel, Expr.read, Expr.readBranches_relabel inside branches,
      Expr.read?_relabel inside otherwise]
  | .existsQuery query => by simp [Expr.relabel, Expr.read, Statement.read_relabel query]
termination_by structural expr => expr

/-- Relabeled expressions are read as the expressions are. -/
theorem Expr.readEach_relabelEach (inside : Bool) : (exprs : List Expr) →
    Expr.readEach r inside (Expr.relabelEach m exprs) = Expr.readEach (r.relabeled m) inside exprs
  | [] => rfl
  | first :: rest => by
    simp only [Expr.relabelEach, Expr.readEach, Expr.read_relabel inside first,
      Expr.readEach_relabelEach inside rest]
termination_by structural exprs => exprs

theorem Expr.read?_relabel (inside : Bool) : (expr : Option Expr) →
    Expr.read? r inside (Expr.relabel? m expr) = Expr.read? (r.relabeled m) inside expr
  | none => rfl
  | some present => congrArg some (Expr.read_relabel inside present)
termination_by structural expr => expr

/-- The relabeled branches of a CASE are read as the branches are. -/
theorem Expr.readBranches_relabel (inside : Bool) : (branches : List (Expr × Expr)) →
    Expr.readBranches r inside (Expr.relabelBranches m branches) =
      Expr.readBranches (r.relabeled m) inside branches
  | [] => rfl
  | (condition, result) :: rest => by
    simp [Expr.relabelBranches, Expr.readBranches, Expr.read_relabel inside condition,
      Expr.read_relabel inside result, Expr.readBranches_relabel inside rest]
termination_by structural branches => branches

/-- Relabeled rows are read as the rows are. -/
theorem Expr.readRows_relabelRows (inside : Bool) : (rows : List (List Expr)) →
    Expr.readRows r inside (Expr.relabelRows m rows) = Expr.readRows (r.relabeled m) inside rows
  | [] => rfl
  | first :: rest => by
    simp [Expr.relabelRows, Expr.readRows, Expr.readEach_relabelEach inside first,
      Expr.readRows_relabelRows inside rest]
termination_by structural rows => rows

/-- A relabeled source of rows is read as the source is. -/
theorem RowSource.read_relabel (inside : Bool) : (source : RowSource) →
    (source.relabel m).read r inside = source.read (r.relabeled m) inside
  | .table source => Table.read_relabel source
  | .cte id explicit => by simp [RowSource.relabel, RowSource.read]
  | .derived id query => by simp [RowSource.relabel, RowSource.read, Statement.read_relabel query]
  | .join kind left right condition => by
    simp [RowSource.relabel, RowSource.read, RowSource.read_relabel inside left,
      RowSource.read_relabel inside right, Expr.read?_relabel inside condition]
termination_by structural source => source

theorem RowSource.readEach_relabelEach (inside : Bool) : (sources : List RowSource) →
    RowSource.readEach r inside (RowSource.relabelEach m sources) =
      RowSource.readEach (r.relabeled m) inside sources
  | [] => rfl
  | first :: rest => by
    simp only [RowSource.relabelEach, RowSource.readEach, RowSource.read_relabel inside first,
      RowSource.readEach_relabelEach inside rest]
termination_by structural sources => sources

/-- A relabeled definition is read as the definition is. -/
theorem Cte.read_relabel : (cte : Cte) → (cte.relabel m).read r = cte.read (r.relabeled m)
  | ⟨id, explicit, columns, _, query⟩ => by
    simp only [Cte.relabel, Cte.read, Cte.readName_relabel, List.isEmpty_map, List.map_map,
      Statement.read_relabel query, Reading.relabeled_commaSeparated]
    rfl
termination_by structural cte => cte

theorem Cte.readEach_relabelEach : (ctes : List Cte) →
    Cte.readEach r (Cte.relabelEach m ctes) = Cte.readEach (r.relabeled m) ctes
  | [] => rfl
  | first :: rest => by
    simp only [Cte.relabelEach, Cte.readEach, Cte.read_relabel first,
      Cte.readEach_relabelEach rest]
termination_by structural ctes => ctes

/-- A relabeled result is read as the result is, with its name replaced as well. -/
theorem ResultItem.read_relabel (inside : Bool) : (item : ResultItem) →
    (item.relabel m).read r inside = item.read (r.relabeled m) inside
  | ⟨expr, result⟩ => by
    cases result <;> simp [ResultItem.relabel, ResultItem.read, Expr.read_relabel inside expr]
termination_by structural item => item

theorem ResultItem.readEach_relabelEach (inside : Bool) : (items : List ResultItem) →
    ResultItem.readEach r inside (ResultItem.relabelEach m items) =
      ResultItem.readEach (r.relabeled m) inside items
  | [] => rfl
  | first :: rest => by
    simp only [ResultItem.relabelEach, ResultItem.readEach, ResultItem.read_relabel inside first,
      ResultItem.readEach_relabelEach inside rest]
termination_by structural items => items

/-- A relabeled sort key is read as the sort key is. -/
theorem OrderTerm.read_relabel (inside : Bool) : (term : OrderTerm) →
    (term.relabel m).read r inside = term.read (r.relabeled m) inside
  | ⟨expr, direction, nulls⟩ => by
    simp [OrderTerm.relabel, OrderTerm.read, Expr.read_relabel inside expr]
termination_by structural term => term

theorem OrderTerm.readEach_relabelEach (inside : Bool) : (terms : List OrderTerm) →
    OrderTerm.readEach r inside (OrderTerm.relabelEach m terms) =
      OrderTerm.readEach (r.relabeled m) inside terms
  | [] => rfl
  | first :: rest => by
    simp only [OrderTerm.relabelEach, OrderTerm.readEach, OrderTerm.read_relabel inside first,
      OrderTerm.readEach_relabelEach inside rest]
termination_by structural terms => terms

/-- A relabeled assignment is read as the assignment is. -/
theorem Assignment.read_relabel (inside : Bool) : (assignment : Assignment) →
    (assignment.relabel m).read r inside = assignment.read (r.relabeled m) inside
  | ⟨assigned, expr⟩ => by
    simp [Assignment.relabel, Assignment.read, Expr.read_relabel inside expr]
termination_by structural assignment => assignment

theorem Assignment.readEach_relabelEach (inside : Bool) : (assignments : List Assignment) →
    Assignment.readEach r inside (Assignment.relabelEach m assignments) =
      Assignment.readEach (r.relabeled m) inside assignments
  | [] => rfl
  | first :: rest => by
    simp only [Assignment.relabelEach, Assignment.readEach, Assignment.read_relabel inside first,
      Assignment.readEach_relabelEach inside rest]
termination_by structural assignments => assignments

/-- What is done on a conflict is read as before, with what it carries replaced. -/
theorem ConflictResponse.read_relabel (inside : Bool) : (response : ConflictResponse) →
    (response.relabel m).read r inside = response.read (r.relabeled m) inside
  | .doNothing => rfl
  | .doUpdate assignments filter => by
    simp [ConflictResponse.relabel, ConflictResponse.read,
      Assignment.readEach_relabelEach inside assignments, Expr.read?_relabel inside filter]
termination_by structural response => response

/-- A relabeled ON CONFLICT clause is read as the clause is. -/
theorem ConflictClause.read_relabel (inside : Bool) : (conflict : ConflictClause) →
    (conflict.relabel m).read r inside = conflict.read (r.relabeled m) inside
  | ⟨target, response⟩ => by
    simp [ConflictClause.relabel, ConflictClause.read,
      ConflictResponse.read_relabel inside response, Function.comp_def]
termination_by structural conflict => conflict

theorem ConflictClause.read?_relabel? (inside : Bool) : (conflict : Option ConflictClause) →
    ConflictClause.read? r inside (ConflictClause.relabel? m conflict) =
      ConflictClause.read? (r.relabeled m) inside conflict
  | none => rfl
  | some present => ConflictClause.read_relabel inside present
termination_by structural conflict => conflict

/-- The relabeled values of an UPDATE are read, beside its relabeled columns, as the values are. -/
theorem NewValues.read_relabel (columns : List Column) : (values : NewValues) →
    (values.relabel m).read r (columns.map (Column.relabel m)) =
      values.read (r.relabeled m) columns
  | .each values => by
    simp [NewValues.relabel, NewValues.read, Expr.readEach_relabelEach true values]
  | .fromQuery source => by
    simp [NewValues.relabel, NewValues.read, Statement.read_relabel source]
  | .queryThenEach source rest => by
    simp only [NewValues.relabel, NewValues.read, List.length_map, Expr.length_relabelEach,
      ← List.map_take, ← List.map_drop, Statement.read_relabel source,
      Expr.readEach_relabelEach true rest, Assignment.readQuery_relabel,
      Assignment.readPairs_relabel, Reading.relabeled_commaSeparated]
termination_by structural values => values

/-- The relabeled rows of an INSERT are read as the rows are. -/
theorem NewRows.read_relabel : (rows : NewRows) →
    (rows.relabel m).read r = rows.read (r.relabeled m)
  | .defaults => rfl
  | .listed rows => by
    simp [NewRows.relabel, NewRows.read, Expr.readRows_relabelRows true rows]
  | .fromQuery source => by simp [NewRows.relabel, NewRows.read, Statement.read_relabel source]
termination_by structural rows => rows

/-- A relabeled SELECT is read as the SELECT is. -/
theorem Select.read_relabel : (select : Select) →
    (select.relabel m).read r = select.read (r.relabeled m)
  | ⟨ctes, distinct, columns, sources, filter, grouping, having, ordering, limit, offset⟩ => by
    simp only [Select.relabel, Select.read, Cte.any_recursive_relabelEach,
      ResultItem.isEmpty_relabelEach,
      Cte.readEach_relabelEach ctes, ResultItem.readEach_relabelEach true columns,
      RowSource.readEach_relabelEach true sources, Expr.read?_relabel true filter,
      Expr.readEach_relabelEach true grouping, Expr.read?_relabel true having,
      OrderTerm.readEach_relabelEach true ordering, Cte.readList_relabeled,
      Reading.relabeled_order, Reading.relabeled_text, Reading.relabeled_bounds,
      Reading.relabeled_commaSeparated, Reading.relabeled_listClause, Reading.relabeled_clause]
termination_by structural select => select

/-- A relabeled UPDATE is read as the UPDATE is. -/
theorem Update.read_relabel : (update : Update) →
    (update.relabel m).read r = update.read (r.relabeled m)
  | ⟨ctes, table, columns, values, sources, filter, returning⟩ => by
    simp only [Update.relabel, Update.read, Cte.any_recursive_relabelEach,
      Cte.readEach_relabelEach ctes, Table.read_relabel, NewValues.read_relabel columns values,
      RowSource.readEach_relabelEach true sources, Expr.read?_relabel true filter,
      ResultItem.readEach_relabelEach true returning, Cte.readList_relabeled,
      Reading.relabeled_order, Reading.relabeled_text, Reading.relabeled_listClause,
      Reading.relabeled_clause]
termination_by structural update => update

/-- A relabeled INSERT is read as the INSERT is. -/
theorem Insert.read_relabel : (insert : Insert) →
    (insert.relabel m).read r = insert.read (r.relabeled m)
  | ⟨ctes, table, columns, rows, conflict, returning⟩ => by
    have hnamed : (columns.map (Column.relabel m)).map (Column.readBare r) =
        columns.map (Column.readBare (r.relabeled m)) := by
      simp [Function.comp_def]
    have hidentity : (table.relabel m).id = m.relation table.id := rfl
    simp only [Insert.relabel, Insert.read, Cte.any_recursive_relabelEach,
      Cte.readEach_relabelEach ctes, Table.readName_relabel, hidentity, hnamed, List.isEmpty_map,
      NewRows.read_relabel rows, ConflictClause.read?_relabel? true conflict,
      ResultItem.readEach_relabelEach true returning, Cte.readList_relabeled,
      Reading.relabeled_order, Reading.relabeled_text, Reading.relabeled_targetAlias,
      Reading.relabeled_commaSeparated, Reading.relabeled_listClause]
termination_by structural insert => insert

/-- A relabeled DELETE is read as the DELETE is. -/
theorem Delete.read_relabel : (delete : Delete) →
    (delete.relabel m).read r = delete.read (r.relabeled m)
  | ⟨ctes, table, sources, filter, returning⟩ => by
    simp only [Delete.relabel, Delete.read, Cte.any_recursive_relabelEach,
      Cte.readEach_relabelEach ctes, Table.read_relabel,
      RowSource.readEach_relabelEach true sources, Expr.read?_relabel true filter,
      ResultItem.readEach_relabelEach true returning, Cte.readList_relabeled,
      Reading.relabeled_order, Reading.relabeled_text, Reading.relabeled_listClause,
      Reading.relabeled_clause]
termination_by structural delete => delete

/-- A relabeled statement is read as the statement is, with what it carries replaced. -/
theorem Statement.read_relabel : (statement : Statement) →
    (statement.relabel m).read r = statement.read (r.relabeled m)
  | .select statement => Select.read_relabel statement
  | .update statement => Update.read_relabel statement
  | .insert statement => Insert.read_relabel statement
  | .delete statement => Delete.read_relabel statement
termination_by structural statement => statement

end

/-- Reading a relabeled node is reading the node and replacing what is met. -/
theorem Node.read_relabel (node : Node) : (node.relabel m).read r = node.read (r.relabeled m) := by
  cases node with
  | statement tree => exact Statement.read_relabel tree
  | expr tree => exact Expr.read_relabel false tree
  | item tree => exact ResultItem.read_relabel false tree
  | order tree => exact OrderTerm.read_relabel false tree
  | assignment tree => exact Assignment.read_relabel false tree
  | source tree => exact RowSource.read_relabel false tree
  | conflict tree => exact ConflictClause.read_relabel false tree

end BoundSql
