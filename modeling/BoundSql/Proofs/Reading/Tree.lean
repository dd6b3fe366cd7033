import BoundSql.Proofs.Reading.Basic
import BoundSql.Render

/-!
# Reading a tree

`Node.read` goes through a tree itself: it knows neither layouts nor states, fails nowhere and hands
out no aliases. A statement is read clause by clause, in the order of the text or in the order in
which relations are met; both orders stand beside each other at every kind of statement. Inside a
clause the two orders are the same, except that a common table expression is met before its name
is written.
-/

set_option autoImplicit false
set_option relaxedAutoImplicit false

namespace BoundSql

variable {α : Type}

/-! ### Combinators -/

namespace Reading

/-- What is taken from something in parentheses. -/
def parenthesized (r : Reading α) (body : List α) : List α := r.text "(" ++ body ++ r.text ")"

/-- What is taken from a list with a text between neighbours. -/
def separated (r : Reading α) (separator : String) : List (List α) → List α
  | [] => []
  | [last] => last
  | first :: rest => first ++ r.text separator ++ r.separated separator rest

/-- What is taken from a list with commas. -/
def commaSeparated (r : Reading α) (items : List (List α)) : List α := r.separated ", " items

/-- What is taken from a clause that may be absent. -/
def clause (r : Reading α) (keyword : String) : Option (List α) → List α
  | none => []
  | some body => r.text keyword ++ body

/-- What is taken from a list behind a keyword, which is absent if the list is empty. -/
def listClause (r : Reading α) (keyword : String) (items : List (List α)) : List α :=
  if items.isEmpty then [] else r.text keyword ++ r.commaSeparated items

end Reading

/-! ### Names -/

/-- What is taken from a column without its relation. -/
def Column.readBare (r : Reading α) (column : Column) : List α :=
  if column.isWildcard then r.text "*" else r.name column.name

/-- What is taken from a column. Only inside a statement its relation is mentioned. -/
def Column.read (r : Reading α) (inside : Bool) (column : Column) : List α :=
  (if inside then r.mention column.relation ++ r.text "." else []) ++ column.readBare r

/-- What is taken from a table's name, behind its schema if it has one. -/
def Table.readName (r : Reading α) (table : Table) : List α :=
  (match table.schema with
    | some schema => r.name schema ++ r.text "."
    | none => []) ++
  r.name table.name

/-- What is taken from a table with its alias. -/
def Table.read (r : Reading α) (table : Table) : List α :=
  table.readName r ++ r.tableAlias table.id

/-- What is taken from the name of a common table expression, which may be its alias. -/
def Cte.readName (r : Reading α) (id : Identity) : Option String → List α
  | some explicit => r.name explicit
  | none => r.mention id

/-- What is taken from a WITH list, from what its definitions give. -/
def Cte.readList (r : Reading α) (recursive : Bool) (definitions : List (List α)) : List α :=
  if definitions.isEmpty then []
  else
    r.text (if recursive then "WITH RECURSIVE " else "WITH ") ++ r.commaSeparated definitions ++
      r.text " "

/-- What is taken from assignments, column by column. Nothing is lost if the two lists do not have
the same length. -/
def Assignment.readPairs (r : Reading α) : List Column → List (List α) → List (List α)
  | assigned :: columns, value :: values =>
    (assigned.readBare r ++ r.text " = " ++ value) :: Assignment.readPairs r columns values
  | [], values => values
  | columns, [] => columns.map (Column.readBare r)

/-- What is taken from the assignment of one query to columns. -/
def Assignment.readQuery (r : Reading α) (columns : List Column) (query : List α) : List α :=
  (if columns.length = 1 then r.commaSeparated (columns.map (Column.readBare r))
    else r.parenthesized (r.commaSeparated (columns.map (Column.readBare r)))) ++
  r.text " = " ++ r.parenthesized query

/-! ### Expressions, sources of rows and statements -/

mutual

/-- What is taken from an expression. -/
def Expr.read (r : Reading α) (inside : Bool) : Expr → List α
  | .column reference => reference.read r inside
  | .literal value => r.value value
  | .star => r.text "*"
  | .defaultValue => r.text "DEFAULT"
  | .excluded column => r.text "EXCLUDED." ++ r.name column
  | .unary op operand =>
    r.parenthesized
      (if op.isPostfix then operand.read r inside ++ r.text (" " ++ op.spelling)
        else r.text (op.spelling ++ " ") ++ operand.read r inside)
  | .binary op left right =>
    r.parenthesized (left.read r inside ++ r.operator op ++ right.read r inside)
  | .connected connective operands =>
    match Expr.readEach r inside operands with
    | [] => []
    | [only] => only
    | several => r.parenthesized (r.separated (" " ++ connective.spelling ++ " ") several)
  | .call function distinct arguments =>
    r.text function ++
      r.parenthesized
        ((if distinct then r.text "DISTINCT " else []) ++
          r.commaSeparated (Expr.readEach r inside arguments))
  | .collate operand collation => operand.read r inside ++ r.text " COLLATE " ++ r.name collation
  | .subquery query => r.parenthesized (query.read r)
  | .inList tested negated candidates =>
    r.parenthesized
      (tested.read r inside ++ r.text (if negated then " NOT IN " else " IN ") ++
        r.parenthesized (r.commaSeparated (Expr.readEach r inside candidates)))
  | .inQuery tested negated query =>
    r.parenthesized
      (tested.read r inside ++ r.text (if negated then " NOT IN " else " IN ") ++
        r.parenthesized (query.read r))
  | .between tested negated low high =>
    r.parenthesized
      (tested.read r inside ++ r.text (if negated then " NOT BETWEEN " else " BETWEEN ") ++
        low.read r inside ++ r.text " AND " ++ high.read r inside)
  | .cast operand typeName =>
    r.text "CAST(" ++ operand.read r inside ++ r.text (" AS " ++ typeName ++ ")")
  | .caseWhen branches otherwise =>
    r.text "CASE" ++ Expr.readBranches r inside branches ++
      r.clause " ELSE " (Expr.read? r inside otherwise) ++ r.text " END"
  | .existsQuery query => r.parenthesized (r.text "EXISTS " ++ r.parenthesized (query.read r))

/-- What is taken from each expression of a list. -/
def Expr.readEach (r : Reading α) (inside : Bool) : List Expr → List (List α)
  | [] => []
  | first :: rest => first.read r inside :: Expr.readEach r inside rest

/-- What is taken from an expression that may be absent. -/
def Expr.read? (r : Reading α) (inside : Bool) : Option Expr → Option (List α)
  | none => none
  | some present => some (present.read r inside)

/-- What is taken from the branches of a CASE. -/
def Expr.readBranches (r : Reading α) (inside : Bool) : List (Expr × Expr) → List α
  | [] => []
  | (condition, result) :: rest =>
    r.text " WHEN " ++ condition.read r inside ++ r.text " THEN " ++ result.read r inside ++
      Expr.readBranches r inside rest

/-- What is taken from each row of a list of rows. -/
def Expr.readRows (r : Reading α) (inside : Bool) : List (List Expr) → List (List α)
  | [] => []
  | first :: rest =>
    r.parenthesized (r.commaSeparated (Expr.readEach r inside first)) ::
      Expr.readRows r inside rest

/-- What is taken from a source of rows. -/
def RowSource.read (r : Reading α) (inside : Bool) : RowSource → List α
  | .table source => source.read r
  | .cte id explicit => Cte.readName r id explicit ++ r.tableAlias id
  | .derived id query => r.parenthesized (query.read r) ++ r.tableAlias id
  | .join kind left right condition =>
    left.read r inside ++ r.text (" " ++ kind.spelling ++ " ") ++ right.read r inside ++
      r.clause " ON " (Expr.read? r inside condition)

/-- What is taken from each source of a list. -/
def RowSource.readEach (r : Reading α) (inside : Bool) : List RowSource → List (List α)
  | [] => []
  | first :: rest => first.read r inside :: RowSource.readEach r inside rest

/-- What is taken from the definition of a common table expression. -/
def Cte.read (r : Reading α) : Cte → List α
  | ⟨id, explicit, columns, _, query⟩ =>
    r.visit id ++ Cte.readName r id explicit ++
      (if columns.isEmpty then []
        else r.text " (" ++ r.commaSeparated (columns.map r.name) ++ r.text ")") ++
      r.text " AS " ++ r.parenthesized (query.read r)

/-- What is taken from each definition of a list. -/
def Cte.readEach (r : Reading α) : List Cte → List (List α)
  | [] => []
  | first :: rest => first.read r :: Cte.readEach r rest

/-- What is taken from an item of a select list or of a RETURNING clause. -/
def ResultItem.read (r : Reading α) (inside : Bool) : ResultItem → List α
  | ⟨expr, result⟩ => expr.read r inside ++ r.clause " AS " (result.map r.name)

/-- What is taken from each item of a list. -/
def ResultItem.readEach (r : Reading α) (inside : Bool) : List ResultItem → List (List α)
  | [] => []
  | first :: rest => first.read r inside :: ResultItem.readEach r inside rest

/-- What is taken from a sort key. -/
def OrderTerm.read (r : Reading α) (inside : Bool) : OrderTerm → List α
  | ⟨expr, direction, nulls⟩ =>
    expr.read r inside ++
      r.clause " " (direction.map fun chosen ↦ r.text chosen.spelling) ++
      r.clause " " (nulls.map fun chosen ↦ r.text chosen.spelling)

/-- What is taken from each sort key of a list. -/
def OrderTerm.readEach (r : Reading α) (inside : Bool) : List OrderTerm → List (List α)
  | [] => []
  | first :: rest => first.read r inside :: OrderTerm.readEach r inside rest

/-- What is taken from an assignment. -/
def Assignment.read (r : Reading α) (inside : Bool) : Assignment → List α
  | ⟨assigned, expr⟩ => assigned.readBare r ++ r.text " = " ++ expr.read r inside

/-- What is taken from each assignment of a list. -/
def Assignment.readEach (r : Reading α) (inside : Bool) : List Assignment → List (List α)
  | [] => []
  | first :: rest => first.read r inside :: Assignment.readEach r inside rest

/-- What is taken from what is done on a conflict. -/
def ConflictResponse.read (r : Reading α) (inside : Bool) : ConflictResponse → List α
  | .doNothing => r.text " DO NOTHING"
  | .doUpdate assignments filter =>
    r.listClause " DO UPDATE SET " (Assignment.readEach r inside assignments) ++
      r.clause " WHERE " (Expr.read? r inside filter)

/-- What is taken from an ON CONFLICT clause. -/
def ConflictClause.read (r : Reading α) (inside : Bool) : ConflictClause → List α
  | ⟨target, response⟩ =>
    r.text " ON CONFLICT" ++
      (if target.isEmpty then []
        else r.text " (" ++ r.commaSeparated (target.map (Column.readBare r)) ++ r.text ")") ++
      response.read r inside

/-- What is taken from an ON CONFLICT clause that may be absent. -/
def ConflictClause.read? (r : Reading α) (inside : Bool) : Option ConflictClause → List α
  | none => []
  | some present => present.read r inside

/-- What is taken from the assignments of an UPDATE. -/
def NewValues.read (r : Reading α) (columns : List Column) : NewValues → List α
  | .each values => r.commaSeparated (Assignment.readPairs r columns (Expr.readEach r true values))
  | .fromQuery source => Assignment.readQuery r columns (source.read r)
  | .queryThenEach source rest =>
    let leading := columns.length - rest.length
    r.commaSeparated
      (Assignment.readQuery r (columns.take leading) (source.read r) ::
        Assignment.readPairs r (columns.drop leading) (Expr.readEach r true rest))

/-- What is taken from the rows of an INSERT. -/
def NewRows.read (r : Reading α) : NewRows → List α
  | .defaults => r.text " DEFAULT VALUES"
  | .listed rows => r.text " VALUES " ++ r.commaSeparated (Expr.readRows r true rows)
  | .fromQuery source => r.text " " ++ source.read r

/-- What is taken from a SELECT. -/
def Select.read (r : Reading α) : Select → List α
  | ⟨ctes, distinct, columns, sources, filter, grouping, having, ordering, limit, offset⟩ =>
    let definitions := Cte.readList r (ctes.any Cte.recursive) (Cte.readEach r ctes)
    let selected := r.text (if distinct then "SELECT DISTINCT " else "SELECT ") ++
      (if columns.isEmpty then r.text "*"
        else r.commaSeparated (ResultItem.readEach r true columns))
    let origins := r.listClause " FROM " (RowSource.readEach r true sources)
    let admitted := r.clause " WHERE " (Expr.read? r true filter)
    let grouped := r.listClause " GROUP BY " (Expr.readEach r true grouping)
    let kept := r.clause " HAVING " (Expr.read? r true having)
    let sorted := r.listClause " ORDER BY " (OrderTerm.readEach r true ordering)
    let bounded := r.bounds limit offset
    match r.order with
    | .meeting =>
      definitions ++ origins ++ admitted ++ grouped ++ kept ++ sorted ++ bounded ++ selected
    | .writing =>
      definitions ++ selected ++ origins ++ admitted ++ grouped ++ kept ++ sorted ++ bounded

/-- What is taken from an UPDATE. -/
def Update.read (r : Reading α) : Update → List α
  | ⟨ctes, table, columns, values, sources, filter, returning⟩ =>
    let definitions := Cte.readList r (ctes.any Cte.recursive) (Cte.readEach r ctes)
    let target := r.text "UPDATE " ++ table.read r ++ r.text " SET "
    let assigned := values.read r columns
    let origins := r.listClause " FROM " (RowSource.readEach r true sources)
    let admitted := r.clause " WHERE " (Expr.read? r true filter)
    let returned := r.listClause " RETURNING " (ResultItem.readEach r true returning)
    match r.order with
    | .meeting => definitions ++ origins ++ assigned ++ admitted ++ returned ++ target
    | .writing => definitions ++ target ++ assigned ++ origins ++ admitted ++ returned

/-- What is taken from an INSERT. -/
def Insert.read (r : Reading α) : Insert → List α
  | ⟨ctes, table, columns, rows, conflict, returning⟩ =>
    let definitions := Cte.readList r (ctes.any Cte.recursive) (Cte.readEach r ctes)
    let target := r.text "INSERT INTO " ++ table.readName r ++ r.targetAlias table.id
    let named :=
      if columns.isEmpty then []
      else r.text " (" ++ r.commaSeparated (columns.map (Column.readBare r)) ++ r.text ")"
    let added := rows.read r
    let resolved := ConflictClause.read? r true conflict
    let returned := r.listClause " RETURNING " (ResultItem.readEach r true returning)
    match r.order with
    | .meeting => definitions ++ added ++ resolved ++ returned ++ target ++ named
    | .writing => definitions ++ target ++ named ++ added ++ resolved ++ returned

/-- What is taken from a DELETE. -/
def Delete.read (r : Reading α) : Delete → List α
  | ⟨ctes, table, sources, filter, returning⟩ =>
    let definitions := Cte.readList r (ctes.any Cte.recursive) (Cte.readEach r ctes)
    let target := r.text "DELETE FROM " ++ table.read r
    let origins := r.listClause " USING " (RowSource.readEach r true sources)
    let admitted := r.clause " WHERE " (Expr.read? r true filter)
    let returned := r.listClause " RETURNING " (ResultItem.readEach r true returning)
    match r.order with
    | .meeting => definitions ++ origins ++ admitted ++ returned ++ target
    | .writing => definitions ++ target ++ origins ++ admitted ++ returned

/-- What is taken from a statement. -/
def Statement.read (r : Reading α) : Statement → List α
  | .select statement => statement.read r
  | .update statement => statement.read r
  | .insert statement => statement.read r
  | .delete statement => statement.read r
termination_by structural statement => statement

end

/-- What is taken from a node that stands alone. -/
def Node.read (r : Reading α) : Node → List α
  | .statement tree => tree.read r
  | .expr tree => tree.read r false
  | .item tree => tree.read r false
  | .order tree => tree.read r false
  | .assignment tree => tree.read r false
  | .source tree => tree.read r false
  | .conflict tree => tree.read r false

/-- What is taken from a node, inside of a statement or alone. -/
def Node.readAt (r : Reading α) (inside : Bool) : Node → List α
  | .statement tree => tree.read r
  | .expr tree => tree.read r inside
  | .item tree => tree.read r inside
  | .order tree => tree.read r inside
  | .assignment tree => tree.read r inside
  | .source tree => tree.read r inside
  | .conflict tree => tree.read r inside

/-- A node is read as it is outside of all statements. -/
theorem Node.read_eq_readAt (r : Reading α) (node : Node) : node.read r = node.readAt r false := by
  cases node <;> rfl

/-! ### Items of a list, one by one -/

/-- A list of expressions is read one by one. -/
theorem Expr.readEach_eq_map (r : Reading α) (inside : Bool) (items : List Expr) :
    Expr.readEach r inside items = items.map (Expr.read r inside) := by
  induction items with
  | nil => rfl
  | cons first rest ih => rw [Expr.readEach, ih, List.map_cons]

/-- Rows are read one by one, each in parentheses. -/
theorem Expr.readRows_eq_map (r : Reading α) (inside : Bool) (rows : List (List Expr)) :
    Expr.readRows r inside rows =
      rows.map fun row ↦ r.parenthesized (r.commaSeparated (row.map (Expr.read r inside))) := by
  induction rows with
  | nil => rfl
  | cons first rest ih => rw [Expr.readRows, ih, Expr.readEach_eq_map, List.map_cons]

/-- A list of sources is read one by one. -/
theorem RowSource.readEach_eq_map (r : Reading α) (inside : Bool) (sources : List RowSource) :
    RowSource.readEach r inside sources = sources.map (RowSource.read r inside) := by
  induction sources with
  | nil => rfl
  | cons first rest ih => rw [RowSource.readEach, ih, List.map_cons]

/-- A list of definitions is read one by one. -/
theorem Cte.readEach_eq_map (r : Reading α) (ctes : List Cte) :
    Cte.readEach r ctes = ctes.map (Cte.read r) := by
  induction ctes with
  | nil => rfl
  | cons first rest ih => rw [Cte.readEach, ih, List.map_cons]

/-- A list of assignments is read one by one. -/
theorem Assignment.readEach_eq_map (r : Reading α) (inside : Bool)
    (assignments : List Assignment) :
    Assignment.readEach r inside assignments = assignments.map (Assignment.read r inside) := by
  induction assignments with
  | nil => rfl
  | cons first rest ih => rw [Assignment.readEach, ih, List.map_cons]

end BoundSql
