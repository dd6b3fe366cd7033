import BoundSql.Roster
import BoundSql.Tree.Operator
import BoundSql.Value

/-!
# Statement trees

An `Expr` is an expression, a `RowSource` stands where rows come from, and a `Statement` is a
SELECT, UPDATE, INSERT or DELETE. The three contain one another, together with the clauses that
make up a statement. A column refers to its relation by identity, so a tree says which relation a
column belongs to even where two relations have one name.
-/

set_option autoImplicit false
set_option relaxedAutoImplicit false

namespace BoundSql

/-- A table of the database. -/
structure Table where
  /-- The identity under which columns refer to the table. -/
  id : Identity
  /-- The name of the table. -/
  name : String
  /-- The schema that the name is looked up in. -/
  schema : Option String := none
deriving DecidableEq, Repr, Inhabited

/-- A column of a relation. The name `*` stands for all of its columns. -/
structure Column where
  /-- The relation that the column belongs to. -/
  relation : Identity
  /-- The name of the column. -/
  name : String
deriving DecidableEq, Repr, Inhabited

mutual

/-- An expression. -/
inductive Expr where
  /-- A column. -/
  | column (reference : Column)
  /-- A bound value. -/
  | literal (value : Value)
  /-- The wildcard `*`. -/
  | star
  /-- The word DEFAULT. -/
  | defaultValue
  /-- A column of the row proposed by an INSERT that met a conflict. -/
  | excluded (column : String)
  /-- An operator on one operand. -/
  | unary (op : UnaryOp) (operand : Expr)
  /-- An operator between two operands. -/
  | binary (op : BinaryOp) (left right : Expr)
  /-- A connective between any number of operands. -/
  | connected (connective : Connective) (operands : List Expr)
  /-- A function call, of distinct arguments only if `distinct` is set. -/
  | call (function : String) (distinct : Bool) (arguments : List Expr)
  /-- An expression under a collation. -/
  | collate (operand : Expr) (collation : String)
  /-- A query in parentheses. -/
  | subquery (query : Statement)
  /-- A test for membership in a list. -/
  | inList (tested : Expr) (negated : Bool) (candidates : List Expr)
  /-- A test for membership in the result of a query. -/
  | inQuery (tested : Expr) (negated : Bool) (query : Statement)
  /-- A test for lying between two bounds. -/
  | between (tested : Expr) (negated : Bool) (low high : Expr)
  /-- A conversion to a type. -/
  | cast (operand : Expr) (typeName : String)
  /-- The result of the first branch whose condition holds. -/
  | caseWhen (branches : List (Expr × Expr)) (otherwise : Option Expr)
  /-- A test for a non-empty result. -/
  | existsQuery (query : Statement)

/-- A source of rows in a FROM, USING or JOIN position. -/
inductive RowSource where
  /-- A table. -/
  | table (source : Table)
  /-- A reference to a common table expression, by its own name or by its alias. -/
  | cte (id : Identity) (name : Option String)
  /-- A query as a relation of its own. -/
  | derived (id : Identity) (query : Statement)
  /-- Two sources joined. -/
  | join (kind : JoinKind) (left right : RowSource) (condition : Option Expr)

/-- The definition of a common table expression. One without a name goes by its alias. -/
structure Cte where
  /-- The identity under which columns refer to the expression. -/
  id : Identity
  /-- The name of the expression. -/
  name : Option String
  /-- The names of its columns, or none to take those of the query. -/
  columns : List String
  /-- Whether the query may refer to the expression itself. -/
  recursive : Bool
  /-- The query that yields its rows. -/
  query : Statement

/-- An item of a select list or of a RETURNING clause. -/
structure ResultItem where
  /-- The selected expression. -/
  expr : Expr
  /-- The name of the result column. -/
  name : Option String

/-- A key of a sort. -/
structure OrderTerm where
  /-- The sorted expression. -/
  expr : Expr
  /-- The direction; without one the database chooses. -/
  direction : Option SortDirection
  /-- Where NULLs go; without a placement the database chooses. -/
  nulls : Option NullsPlacement

/-- The assignment of one value to one column. -/
structure Assignment where
  /-- The assigned column. -/
  column : Column
  /-- The new value. -/
  value : Expr

/-- What an INSERT does with a row that meets a conflict. -/
inductive ConflictResponse where
  /-- The row is skipped. -/
  | doNothing
  /-- The row that is there already is updated, if the filter admits it. -/
  | doUpdate (assignments : List Assignment) (filter : Option Expr)

/-- The ON CONFLICT clause of an INSERT. -/
structure ConflictClause where
  /-- The columns whose conflict is meant, or none to mean any. -/
  target : List Column
  /-- What is done on a conflict. -/
  response : ConflictResponse

/-- The values that an UPDATE assigns. -/
inductive NewValues where
  /-- One value for each column. -/
  | each (values : List Expr)
  /-- One query that yields the values of all columns. -/
  | fromQuery (source : Statement)
  /-- A query for the leading columns, then one value for each of the others. -/
  | queryThenEach (source : Statement) (rest : List Expr)

/-- The rows that an INSERT adds. -/
inductive NewRows where
  /-- One row of defaults. -/
  | defaults
  /-- Rows that are spelled out. -/
  | listed (rows : List (List Expr))
  /-- The result of a query. -/
  | fromQuery (source : Statement)

/-- A SELECT statement. -/
structure Select where
  /-- The common table expressions in front. -/
  ctes : List Cte
  /-- Whether equal rows are merged. -/
  distinct : Bool
  /-- The select list; an empty one selects all columns. -/
  columns : List ResultItem
  /-- Where the rows come from. -/
  sources : List RowSource
  /-- The WHERE condition. -/
  filter : Option Expr
  /-- The GROUP BY keys. -/
  grouping : List Expr
  /-- The HAVING condition. -/
  having : Option Expr
  /-- The ORDER BY keys. -/
  ordering : List OrderTerm
  /-- How many rows are wanted at most. -/
  limit : Option Nat
  /-- How many rows are skipped. -/
  offset : Option Nat

/-- An UPDATE statement. -/
structure Update where
  /-- The common table expressions in front. -/
  ctes : List Cte
  /-- The updated table. -/
  table : Table
  /-- The assigned columns. -/
  columns : List Column
  /-- The assigned values. -/
  values : NewValues
  /-- Further sources of rows. -/
  sources : List RowSource
  /-- The WHERE condition. -/
  filter : Option Expr
  /-- The RETURNING list. -/
  returning : List ResultItem

/-- An INSERT statement. -/
structure Insert where
  /-- The common table expressions in front. -/
  ctes : List Cte
  /-- The table that receives the rows. -/
  table : Table
  /-- The named columns. -/
  columns : List Column
  /-- The added rows. -/
  rows : NewRows
  /-- What is done on a conflict. -/
  conflict : Option ConflictClause
  /-- The RETURNING list. -/
  returning : List ResultItem

/-- A DELETE statement. -/
structure Delete where
  /-- The common table expressions in front. -/
  ctes : List Cte
  /-- The table that loses rows. -/
  table : Table
  /-- Further sources of rows. -/
  sources : List RowSource
  /-- The WHERE condition. -/
  filter : Option Expr
  /-- The RETURNING list. -/
  returning : List ResultItem

/-- A statement. -/
inductive Statement where
  /-- A SELECT. -/
  | select (statement : Select)
  /-- An UPDATE. -/
  | update (statement : Update)
  /-- An INSERT. -/
  | insert (statement : Insert)
  /-- A DELETE. -/
  | delete (statement : Delete)

end

instance : Inhabited Expr := ⟨.star⟩

/-- Anything that a column can belong to. -/
inductive Relation where
  /-- A table. -/
  | table (source : Table)
  /-- A common table expression. -/
  | cte (definition : Cte)
  /-- A query as a relation of its own. -/
  | derived (id : Identity) (query : Statement)

end BoundSql
