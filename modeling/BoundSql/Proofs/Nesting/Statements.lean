import BoundSql.Render

/-!
# The statements of a tree

`Node.statements` lists every statement that a node consists of or holds at any depth: in the WITH
list, as a source of rows, inside of an expression, or as what an UPDATE or INSERT takes its values
from. The list goes through the clauses in the order of the text, and a statement comes before the
statements that it holds.
-/

set_option autoImplicit false
set_option relaxedAutoImplicit false

namespace BoundSql

mutual

/-- The statements in an expression. -/
def Expr.statements : Expr → List Statement
  | .column _ | .literal _ | .star | .defaultValue | .excluded _ => []
  | .unary _ operand => operand.statements
  | .binary _ left right => left.statements ++ right.statements
  | .connected _ operands => Expr.statementsEach operands
  | .call _ _ arguments => Expr.statementsEach arguments
  | .collate operand _ => operand.statements
  | .subquery query => query.statements
  | .inList tested _ candidates => tested.statements ++ Expr.statementsEach candidates
  | .inQuery tested _ query => tested.statements ++ query.statements
  | .between tested _ low high => tested.statements ++ low.statements ++ high.statements
  | .cast operand _ => operand.statements
  | .caseWhen branches otherwise => Expr.statementsBranches branches ++ Expr.statements? otherwise
  | .existsQuery query => query.statements

/-- The statements in a list of expressions. -/
def Expr.statementsEach : List Expr → List Statement
  | [] => []
  | first :: rest => first.statements ++ Expr.statementsEach rest

/-- The statements in an expression that may be absent. -/
def Expr.statements? : Option Expr → List Statement
  | none => []
  | some present => present.statements

/-- The statements in the branches of a CASE. -/
def Expr.statementsBranches : List (Expr × Expr) → List Statement
  | [] => []
  | (condition, result) :: rest =>
    condition.statements ++ result.statements ++ Expr.statementsBranches rest

/-- The statements in a list of rows. -/
def Expr.statementsRows : List (List Expr) → List Statement
  | [] => []
  | first :: rest => Expr.statementsEach first ++ Expr.statementsRows rest

/-- The statements in a source of rows. -/
def RowSource.statements : RowSource → List Statement
  | .table _ | .cte _ _ => []
  | .derived _ query => query.statements
  | .join _ left right condition =>
    left.statements ++ right.statements ++ Expr.statements? condition

/-- The statements in a list of sources of rows. -/
def RowSource.statementsEach : List RowSource → List Statement
  | [] => []
  | first :: rest => first.statements ++ RowSource.statementsEach rest

/-- The statements in the definition of a common table expression. -/
def Cte.statements : Cte → List Statement
  | ⟨_, _, _, _, query⟩ => query.statements

/-- The statements in a WITH list. -/
def Cte.statementsEach : List Cte → List Statement
  | [] => []
  | first :: rest => first.statements ++ Cte.statementsEach rest

/-- The statements in an item of a select list or of a RETURNING clause. -/
def ResultItem.statements : ResultItem → List Statement
  | ⟨expr, _⟩ => expr.statements

/-- The statements in a list of items. -/
def ResultItem.statementsEach : List ResultItem → List Statement
  | [] => []
  | first :: rest => first.statements ++ ResultItem.statementsEach rest

/-- The statements in a sort key. -/
def OrderTerm.statements : OrderTerm → List Statement
  | ⟨expr, _, _⟩ => expr.statements

/-- The statements in a list of sort keys. -/
def OrderTerm.statementsEach : List OrderTerm → List Statement
  | [] => []
  | first :: rest => first.statements ++ OrderTerm.statementsEach rest

/-- The statements in an assignment. -/
def Assignment.statements : Assignment → List Statement
  | ⟨_, expr⟩ => expr.statements

/-- The statements in a list of assignments. -/
def Assignment.statementsEach : List Assignment → List Statement
  | [] => []
  | first :: rest => first.statements ++ Assignment.statementsEach rest

/-- The statements in what is done on a conflict. -/
def ConflictResponse.statements : ConflictResponse → List Statement
  | .doNothing => []
  | .doUpdate assignments filter =>
    Assignment.statementsEach assignments ++ Expr.statements? filter

/-- The statements in an ON CONFLICT clause. -/
def ConflictClause.statements : ConflictClause → List Statement
  | ⟨_, response⟩ => response.statements

/-- The statements in an ON CONFLICT clause that may be absent. -/
def ConflictClause.statements? : Option ConflictClause → List Statement
  | none => []
  | some present => present.statements

/-- The statements in the values of an UPDATE. -/
def NewValues.statements : NewValues → List Statement
  | .each values => Expr.statementsEach values
  | .fromQuery source => source.statements
  | .queryThenEach source rest => source.statements ++ Expr.statementsEach rest

/-- The statements in the rows of an INSERT. -/
def NewRows.statements : NewRows → List Statement
  | .defaults => []
  | .listed rows => Expr.statementsRows rows
  | .fromQuery source => source.statements

/-- The statements that a SELECT holds. -/
def Select.statements : Select → List Statement
  | ⟨ctes, _, columns, sources, filter, grouping, having, ordering, _, _⟩ =>
    Cte.statementsEach ctes ++ ResultItem.statementsEach columns ++
      RowSource.statementsEach sources ++ Expr.statements? filter ++
      Expr.statementsEach grouping ++ Expr.statements? having ++ OrderTerm.statementsEach ordering

/-- The statements that an UPDATE holds. -/
def Update.statements : Update → List Statement
  | ⟨ctes, _, _, values, sources, filter, returning⟩ =>
    Cte.statementsEach ctes ++ values.statements ++ RowSource.statementsEach sources ++
      Expr.statements? filter ++ ResultItem.statementsEach returning

/-- The statements that an INSERT holds. -/
def Insert.statements : Insert → List Statement
  | ⟨ctes, _, _, rows, conflict, returning⟩ =>
    Cte.statementsEach ctes ++ rows.statements ++ ConflictClause.statements? conflict ++
      ResultItem.statementsEach returning

/-- The statements that a DELETE holds. -/
def Delete.statements : Delete → List Statement
  | ⟨ctes, _, sources, filter, returning⟩ =>
    Cte.statementsEach ctes ++ RowSource.statementsEach sources ++ Expr.statements? filter ++
      ResultItem.statementsEach returning

/-- A statement and the statements that it holds. -/
def Statement.statements : Statement → List Statement
  | .select statement => .select statement :: statement.statements
  | .update statement => .update statement :: statement.statements
  | .insert statement => .insert statement :: statement.statements
  | .delete statement => .delete statement :: statement.statements
termination_by structural statement => statement

end

/-- The statements of a node, at any depth. -/
def Node.statements : Node → List Statement
  | .statement tree => tree.statements
  | .expr tree => tree.statements
  | .item tree => tree.statements
  | .order tree => tree.statements
  | .assignment tree => tree.statements
  | .source tree => tree.statements
  | .conflict tree => tree.statements

end BoundSql
