import BoundSql.Dialect
import BoundSql.Refusal
import BoundSql.Tree.Width

/-!
# Which clauses fit together

The conditions on a tree that concern more than one of its parts: whose columns may be assigned,
how many values go with them, which joins take a condition. Every check yields the first error it
finds, or none. Names and bare words are not looked at here; they are checked where they are
written.
-/

set_option autoImplicit false
set_option relaxedAutoImplicit false

namespace BoundSql

/-- Tells whether the column is one of the table's, by identity. -/
def Column.isOf (column : Column) (table : Table) : Bool := column.relation = table.id

/-- The error of assigning to columns that are not all the table's own. -/
def Table.columnsError? (table : Table) (columns : List Column) : Option Refusal :=
  columns.findSome? fun column ↦
    if column.isOf table then none
    else some (.malformed (.foreignColumn column.name table.name))

namespace Statement

/-- The error of a query of known width where one column is required. -/
def singleColumnError? (query : Statement) : Option Refusal :=
  match query.width with
  | none => none
  | some width => if width = 1 then none else some (.subqueryWidth width)

/-- The error of assigning a query to a number of columns that it does not yield. -/
def assignedError? (query : Statement) (columns : Nat) : Option Refusal :=
  if columns = 1 then query.singleColumnError?
  else
    match query.width with
    | none => none
    | some width =>
      if width = columns then none else some (.malformed (.updateQueryWidth width columns))

end Statement

/-- The error of a value that is a query of another width than one. -/
def Expr.scalarError? : Expr → Option Refusal
  | .subquery query => query.singleColumnError?
  | _ => none

/-- The error of a join that lacks its condition or has one too many. -/
def JoinKind.conditionError? (kind : JoinKind) (conditioned : Bool) : Option Refusal :=
  match kind, conditioned with
  | .cross, true => some (.malformed .crossJoinWithCondition)
  | .cross, false => none
  | _, true => none
  | kind, false => some (.malformed (.joinWithoutCondition kind))

/-- The error of a RETURNING list under a dialect without the clause. -/
def ResultItem.returningError? (d : Dialect) (items : List ResultItem) : Option Refusal :=
  if items.isEmpty || d.hasReturning then none
  else some (.malformed (.returningUnsupported d.name))

/-- The error of values that do not go with a number of columns. -/
def NewValues.error? (columns : Nat) : NewValues → Option Refusal
  | .each values =>
    if values.length = columns then none
    else some (.malformed (.updateValueCount values.length columns))
  | .fromQuery source => source.assignedError? columns
  | .queryThenEach source rest =>
    if rest.length < columns then source.assignedError? (columns - rest.length)
    else some (.malformed (.updateQueryRest rest.length columns))

/-- The error of an UPDATE whose columns and values do not fit its target or each other. -/
def Update.error? (update : Update) : Option Refusal :=
  if update.columns.isEmpty then some (.malformed .updateWithoutColumns)
  else
    (update.table.columnsError? update.columns).or
      (update.values.error? update.columns.length)

/-- The error of rows that do not go with a number of named columns. -/
def NewRows.error? (columns : Nat) : NewRows → Option Refusal
  | .defaults =>
    if columns = 0 then none else some (.malformed .insertColumnsWithoutValues)
  | .listed rows =>
    if columns = 0 then some (.malformed .insertRowsWithoutColumns)
    else if rows.isEmpty then some (.malformed .insertWithoutRows)
    else
      rows.findSome? fun row ↦
        if row.length = columns then none
        else some (.malformed (.insertRowWidth row.length columns))
  | .fromQuery source =>
    match source.width with
    | none => none
    | some width =>
      if columns = 0 ∨ width = columns then none
      else some (.malformed (.insertQueryWidth width columns))

/-- The error of an ON CONFLICT clause that does not fit the table of its INSERT. -/
def ConflictClause.error? (conflict : ConflictClause) (table : Table) : Option Refusal :=
  (table.columnsError? conflict.target).or
    (match conflict.response with
      | .doNothing => none
      | .doUpdate assignments _ =>
        if assignments.isEmpty then some (.malformed .conflictWithoutAssignments)
        else table.columnsError? (assignments.map Assignment.column))

/-- The error of an INSERT whose columns, rows and conflict clause do not fit together or do not
exist under the dialect. -/
def Insert.error? (d : Dialect) (insert : Insert) : Option Refusal :=
  ((insert.table.columnsError? insert.columns).or
    (insert.rows.error? insert.columns.length)).or
    (match insert.conflict with
      | none => none
      | some conflict =>
        if d.aliasesInsert then conflict.error? insert.table
        else some (.malformed (.conflictUnsupported d.name)))

end BoundSql
