import BoundSql.BareWord
import BoundSql.Identifier
import BoundSql.Layout.Basic
import BoundSql.Tree.Check

/-!
# The layout of a tree

For every kind of node the layout under a dialect: what it writes, in which order its relations
are met, and where it fails. Every operator is written in parentheses of its own, so that no
reader needs to know how strongly operators bind. A statement meets its WITH list first and its
target or select list last, whatever the order of its text: `Layout.frame` holds the two orders.
-/

set_option autoImplicit false
set_option relaxedAutoImplicit false

namespace BoundSql

open Layout

/-! ### Names -/

namespace Dialect

/-- What stands between a relation and its alias. -/
def aliasLead (d : Dialect) : String := if d.aliasKeyword then " AS " else " "

/-- The spelling of an operator in the text. A percent sign is doubled where placeholders are
written with one. -/
def operator (d : Dialect) (op : BinaryOp) : String :=
  if op = .mod ∧ d.paramStyle.doublesPercent = true then "%%" else op.spelling

/-- The bounds of a SELECT, behind all of its clauses. -/
def bounds (d : Dialect) (limit offset : Option Nat) : String :=
  match d.paging with
  | .limit =>
    (match limit, offset, d.unboundedLimit with
      | some count, _, _ => " LIMIT " ++ toString count
      | none, some _, some most => " LIMIT " ++ toString most
      | _, _, _ => "") ++
    (match offset with
      | some skipped => " OFFSET " ++ toString skipped
      | none => "")
  | .fetch =>
    (match offset with
      | some skipped => " OFFSET " ++ toString skipped ++ " ROWS"
      | none => "") ++
    (match limit with
      | some count => " FETCH FIRST " ++ toString count ++ " ROWS ONLY"
      | none => "")

end Dialect

/-- The layout of a bare word, which may not be any text. -/
def BareWord.layout (kind : BareWord) (word : String) : Layout :=
  require (kind.error? word) ++ text word

/-- The layout of a list of names, all of which are checked before the first is written; `lead`
and `close` stand around them. -/
def Dialect.namesLayout (d : Dialect) (lead : String) (names : List String) (close : String) :
    Layout :=
  require (d.namesError? names) ++ text lead ++ commaSeparated (names.map identifier) ++ text close

namespace Column

/-- The error of writing a column, if its name has a fault. -/
def error? (d : Dialect) (column : Column) : Option Refusal :=
  if column.isWildcard then none else d.nameError? column.name

/-- The layout of a column without its relation, as an assigned column is written. -/
def bare (column : Column) : Layout :=
  if column.isWildcard then text "*" else identifier column.name

/-- The layout of a column, behind the alias of its relation where there is a statement around. -/
def layout (d : Dialect) (column : Column) : Layout :=
  require (column.error? d) ++ qualifier column.relation ++ column.bare

/-- The layout of a list of columns without their relations, all of which are checked before the
first is written; `lead` and `close` stand around them. -/
def listLayout (d : Dialect) (lead : String) (columns : List Column) (close : String) : Layout :=
  require (columns.findSome? (error? d)) ++ text lead ++
    commaSeparated (columns.map bare) ++ text close

end Column

namespace Table

/-- The layout of a table's name, behind its schema if it has one. -/
def qualifiedName (table : Table) : Layout :=
  (match table.schema with
    | some schema => identifier schema ++ text "."
    | none => nothing) ++
  identifier table.name

/-- The layout of a table with its alias. -/
def layout (d : Dialect) (table : Table) : Layout :=
  table.qualifiedName ++ relationAlias d.aliasLead table.id

end Table

/-- The layout of the name under which a common table expression is defined and referred to. -/
def Cte.nameLayout (id : Identity) : Option String → Layout
  | some explicit => identifier explicit
  | none => relationAlias "" id

/-- The layout of the WITH list in front of a statement, from the layouts of its definitions. -/
def Cte.listLayout (recursive : Bool) (definitions : List Layout) : Layout :=
  if definitions.isEmpty then nothing
  else
    text (if recursive then "WITH RECURSIVE " else "WITH ") ++ commaSeparated definitions ++
      text " "

/-- The layout of a SET clause: the assigned columns beside the layouts of their values. -/
def Assignment.listLayout : List (Column × Layout) → List Layout
  | [] => []
  | (assigned, layout) :: rest =>
    (assigned.bare ++ text " = " ++ layout) :: Assignment.listLayout rest

/-- The layout of the assignment of one query to columns, which stand in parentheses unless there
is but one of them. -/
def Assignment.queryLayout (d : Dialect) (columns : List Column) (query : Layout) : Layout :=
  (if columns.length = 1 then Column.listLayout d "" columns ""
    else Column.listLayout d "(" columns ")") ++
  text " = " ++ parenthesized query

/-! ### Expressions, sources of rows and statements -/

mutual

/-- The layout of an expression. -/
def Expr.layout (d : Dialect) : Expr → Layout
  | .column reference => reference.layout d
  | .literal value => placeholder value
  | .star => text "*"
  | .defaultValue => text "DEFAULT"
  | .excluded column => text "EXCLUDED." ++ identifier column
  | .unary op operand =>
    parenthesized
      (if op.isPostfix then operand.layout d ++ text (" " ++ op.spelling)
        else text (op.spelling ++ " ") ++ operand.layout d)
  | .binary op left right =>
    parenthesized (left.layout d ++ text (" " ++ d.operator op ++ " ") ++ right.layout d)
  | .connected connective operands =>
    match Expr.layouts d operands with
    | [] => fail (.malformed (.noOperands connective))
    | [only] => only
    | several => parenthesized (separated (" " ++ connective.spelling ++ " ") several)
  | .call function distinct arguments =>
    BareWord.function.layout function ++
      parenthesized
        (text (if distinct then "DISTINCT " else "") ++
          commaSeparated (Expr.layouts d arguments))
  | .collate operand collation =>
    require (d.nameError? collation) ++ operand.layout d ++ text " COLLATE " ++ identifier collation
  | .subquery query => parenthesized (query.layout d)
  | .inList tested negated candidates =>
    parenthesized
      (tested.layout d ++ text (if negated then " NOT IN " else " IN ") ++
        match Expr.layouts d candidates with
        | [] => fail (.malformed .emptyIn)
        | several => parenthesized (commaSeparated several))
  | .inQuery tested negated query =>
    parenthesized
      (tested.layout d ++ text (if negated then " NOT IN " else " IN ") ++
        require query.singleColumnError? ++ parenthesized (query.layout d))
  | .between tested negated low high =>
    parenthesized
      (tested.layout d ++ text (if negated then " NOT BETWEEN " else " BETWEEN ") ++
        low.layout d ++ text " AND " ++ high.layout d)
  | .cast operand typeName =>
    require (BareWord.type.error? typeName) ++ text "CAST(" ++ operand.layout d ++
      text (" AS " ++ typeName ++ ")")
  | .caseWhen branches otherwise =>
    require (if branches.isEmpty then some (.malformed .caseWithoutBranches) else none) ++
      text "CASE" ++ Expr.branchesLayout d branches ++
      clause " ELSE " (Expr.layout? d otherwise) ++ text " END"
  | .existsQuery query => parenthesized (text "EXISTS " ++ parenthesized (query.layout d))

/-- The layouts of a list of expressions. -/
def Expr.layouts (d : Dialect) : List Expr → List Layout
  | [] => []
  | first :: rest => first.layout d :: Expr.layouts d rest

/-- The layout of an expression that may be absent. -/
def Expr.layout? (d : Dialect) : Option Expr → Option Layout
  | none => none
  | some present => some (present.layout d)

/-- The layouts of values for single columns, which may not be queries of several columns. -/
def Expr.scalarLayouts (d : Dialect) : List Expr → List Layout
  | [] => []
  | first :: rest => (require first.scalarError? ++ first.layout d) :: Expr.scalarLayouts d rest

/-- The layout of the branches of a CASE. -/
def Expr.branchesLayout (d : Dialect) : List (Expr × Expr) → Layout
  | [] => nothing
  | (condition, result) :: rest =>
    text " WHEN " ++ condition.layout d ++ text " THEN " ++ result.layout d ++
      Expr.branchesLayout d rest

/-- The layouts of rows of expressions, each in parentheses. -/
def Expr.rowLayouts (d : Dialect) : List (List Expr) → List Layout
  | [] => []
  | first :: rest =>
    parenthesized (commaSeparated (Expr.layouts d first)) :: Expr.rowLayouts d rest

/-- The layout of a source of rows. The relations inside a derived table are met before it. -/
def RowSource.layout (d : Dialect) : RowSource → Layout
  | .table source => source.layout d
  | .cte id explicit => Cte.nameLayout id explicit ++ relationAlias d.aliasLead id
  | .derived id query => parenthesized (query.layout d) ++ relationAlias d.aliasLead id
  | .join kind left right condition =>
    left.layout d ++ text (" " ++ kind.spelling ++ " ") ++ right.layout d ++
      require (kind.conditionError? condition.isSome) ++
      clause " ON " (Expr.layout? d condition)

/-- The layouts of a list of sources of rows. -/
def RowSource.layouts (d : Dialect) : List RowSource → List Layout
  | [] => []
  | first :: rest => first.layout d :: RowSource.layouts d rest

/-- The layout of the definition of a common table expression, which is met before its query. -/
def Cte.layout (d : Dialect) : Cte → Layout
  | ⟨id, explicit, columns, _, query⟩ =>
    visit id ++ Cte.nameLayout id explicit ++
      (if columns.isEmpty then nothing else d.namesLayout " (" columns ")") ++
      text " AS " ++ parenthesized (query.layout d)

/-- The layouts of a list of definitions. -/
def Cte.layouts (d : Dialect) : List Cte → List Layout
  | [] => []
  | first :: rest => first.layout d :: Cte.layouts d rest

/-- The layout of an item of a select list or of a RETURNING clause. -/
def ResultItem.layout (d : Dialect) : ResultItem → Layout
  | ⟨expr, result⟩ =>
    expr.layout d ++
      match result with
      | some resultName => text " AS " ++ identifier resultName
      | none => nothing

/-- The layouts of a list of items. -/
def ResultItem.layouts (d : Dialect) : List ResultItem → List Layout
  | [] => []
  | first :: rest => first.layout d :: ResultItem.layouts d rest

/-- The layout of a sort key. -/
def OrderTerm.layout (d : Dialect) : OrderTerm → Layout
  | ⟨expr, direction, nulls⟩ =>
    expr.layout d ++
      clause " " (direction.map fun chosen ↦ text chosen.spelling) ++
      clause " " (nulls.map fun chosen ↦ text chosen.spelling)

/-- The layouts of a list of sort keys. -/
def OrderTerm.layouts (d : Dialect) : List OrderTerm → List Layout
  | [] => []
  | first :: rest => first.layout d :: OrderTerm.layouts d rest

/-- The layout of an assignment. -/
def Assignment.layout (d : Dialect) : Assignment → Layout
  | ⟨assigned, expr⟩ =>
    assigned.bare ++ text " = " ++ require expr.scalarError? ++ expr.layout d

/-- The layouts of a list of assignments. -/
def Assignment.layouts (d : Dialect) : List Assignment → List Layout
  | [] => []
  | first :: rest => first.layout d :: Assignment.layouts d rest

/-- The layout of what is done on a conflict. -/
def ConflictResponse.layout (d : Dialect) : ConflictResponse → Layout
  | .doNothing => text " DO NOTHING"
  | .doUpdate assignments filter =>
    atomic (listClause " DO UPDATE SET " (Assignment.layouts d assignments)) ++
      atomic (clause " WHERE " (Expr.layout? d filter))

/-- The layout of an ON CONFLICT clause. -/
def ConflictClause.layout (d : Dialect) : ConflictClause → Layout
  | ⟨target, response⟩ =>
    text " ON CONFLICT" ++
      (if target.isEmpty then nothing
        else text " (" ++ Column.listLayout d "" target ")") ++
      response.layout d

/-- The layout of an ON CONFLICT clause that may be absent. -/
def ConflictClause.layout? (d : Dialect) : Option ConflictClause → Layout
  | none => nothing
  | some present => present.layout d

/-- The layout of the assignments of an UPDATE. -/
def NewValues.layout (d : Dialect) (columns : List Column) : NewValues → Layout
  | .each values =>
    commaSeparated (Assignment.listLayout (columns.zip (Expr.scalarLayouts d values)))
  | .fromQuery source => Assignment.queryLayout d columns (source.layout d)
  | .queryThenEach source rest =>
    let leading := columns.length - rest.length
    commaSeparated
      (Assignment.queryLayout d (columns.take leading) (source.layout d) ::
        Assignment.listLayout ((columns.drop leading).zip (Expr.scalarLayouts d rest)))

/-- The layout of the rows of an INSERT. -/
def NewRows.layout (d : Dialect) : NewRows → Layout
  | .defaults => text " DEFAULT VALUES"
  | .listed rows => text " VALUES " ++ commaSeparated (Expr.rowLayouts d rows)
  | .fromQuery source => text " " ++ source.layout d

/-- The layout of a SELECT. It meets its select list last. -/
def Select.layout (d : Dialect) : Select → Layout
  | ⟨ctes, distinct, columns, sources, filter, grouping, having, ordering, limit, offset⟩ =>
    scope
      (frame
        (Cte.listLayout (ctes.any Cte.recursive) (Cte.layouts d ctes))
        (listClause " FROM " (RowSource.layouts d sources) ++
          clause " WHERE " (Expr.layout? d filter) ++
          listClause " GROUP BY " (Expr.layouts d grouping) ++
          clause " HAVING " (Expr.layout? d having) ++
          listClause " ORDER BY " (OrderTerm.layouts d ordering) ++
          text (d.bounds limit offset))
        (text (if distinct then "SELECT DISTINCT " else "SELECT ") ++
          (if columns.isEmpty then text "*" else commaSeparated (ResultItem.layouts d columns)))
        nothing)

/-- The layout of an UPDATE. It meets its FROM clause before its assignments and its target
last. -/
def Update.layout (d : Dialect) : Update → Layout
  | ⟨ctes, table, columns, values, sources, filter, returning⟩ =>
    require (Update.error? ⟨ctes, table, columns, values, sources, filter, returning⟩) ++
      scope
        (frame
          (Cte.listLayout (ctes.any Cte.recursive) (Cte.layouts d ctes))
          (frame nothing (listClause " FROM " (RowSource.layouts d sources))
            (values.layout d columns) nothing ++
            clause " WHERE " (Expr.layout? d filter) ++
            require (ResultItem.returningError? d returning) ++
            listClause " RETURNING " (ResultItem.layouts d returning))
          (text "UPDATE " ++ table.layout d ++ text " SET ")
          nothing)

/-- The layout of an INSERT. It meets its target last, and only if the target has an alias. The
named columns are written when all else is complete. -/
def Insert.layout (d : Dialect) : Insert → Layout
  | ⟨ctes, table, columns, rows, conflict, returning⟩ =>
    require (Insert.error? d ⟨ctes, table, columns, rows, conflict, returning⟩) ++
      scope
        (frame
          (Cte.listLayout (ctes.any Cte.recursive) (Cte.layouts d ctes))
          (rows.layout d ++ ConflictClause.layout? d conflict ++
            require (ResultItem.returningError? d returning) ++
            listClause " RETURNING " (ResultItem.layouts d returning))
          (text "INSERT INTO " ++
            (if d.aliasesInsert then table.layout d else table.qualifiedName))
          (if columns.isEmpty then nothing
            else text " (" ++ Column.listLayout d "" columns ")"))

/-- The layout of a DELETE. It meets its target last. -/
def Delete.layout (d : Dialect) : Delete → Layout
  | ⟨ctes, table, sources, filter, returning⟩ =>
    scope
      (frame
        (Cte.listLayout (ctes.any Cte.recursive) (Cte.layouts d ctes))
        (listClause " USING " (RowSource.layouts d sources) ++
          clause " WHERE " (Expr.layout? d filter) ++
          require (ResultItem.returningError? d returning) ++
          listClause " RETURNING " (ResultItem.layouts d returning))
        (text "DELETE FROM " ++ table.layout d)
        nothing)

/-- The layout of a statement. -/
def Statement.layout (d : Dialect) : Statement → Layout
  | .select statement => statement.layout d
  | .update statement => statement.layout d
  | .insert statement => statement.layout d
  | .delete statement => statement.layout d
termination_by structural statement => statement

end

end BoundSql
