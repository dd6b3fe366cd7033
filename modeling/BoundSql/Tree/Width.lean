import BoundSql.Tree.Basic

/-!
# How many columns a statement yields

`Statement.width` is the number of result columns where that is known without a schema. A select
list or RETURNING list that holds a wildcard has an unknown width, and so has a SELECT of all
columns.
-/

set_option autoImplicit false
set_option relaxedAutoImplicit false

namespace BoundSql

/-- Tells whether the column stands for all columns of its relation. -/
def Column.isWildcard (column : Column) : Bool := column.name = "*"

/-- Tells whether the expression stands for any number of columns. -/
def Expr.isWildcard : Expr → Bool
  | .star => true
  | .column reference => reference.isWildcard
  | _ => false

/-- Tells whether the item stands for any number of result columns. -/
def ResultItem.isWildcard (item : ResultItem) : Bool := item.expr.isWildcard

/-- The number of result columns of a list of items, unless one of them is a wildcard. -/
def ResultItem.widthOf (items : List ResultItem) : Option Nat :=
  if items.any isWildcard then none else some items.length

/-- The number of columns that a SELECT yields, where it is known. -/
def Select.width (select : Select) : Option Nat :=
  if select.columns.isEmpty then none else ResultItem.widthOf select.columns

/-- The number of columns that a statement yields, where it is known. -/
def Statement.width : Statement → Option Nat
  | .select statement => statement.width
  | .update statement => ResultItem.widthOf statement.returning
  | .insert statement => ResultItem.widthOf statement.returning
  | .delete statement => ResultItem.widthOf statement.returning

end BoundSql
