import BoundSql.Tree.Basic

/-!
# Building trees

Statements are put together step by step: a constructor gives the statement without any clause,
and each builder adds to one clause or replaces it. No builder fails; what does not fit together
is found when the tree is rendered. Fresh relations take their identity from a `IdentitySupply`.
-/

set_option autoImplicit false
set_option relaxedAutoImplicit false

namespace BoundSql

/-! ### Relations and columns -/

namespace Relation

/-- The identity under which columns refer to the relation. -/
def id : Relation → Identity
  | .table source => source.id
  | .cte definition => definition.id
  | .derived id _ => id

/-- A column of the relation. -/
def column (relation : Relation) (name : String) : Column := ⟨relation.id, name⟩

/-- The relation as a source of rows. -/
def rowSource : Relation → RowSource
  | .table source => .table source
  | .cte definition => .cte definition.id definition.name
  | .derived id query => .derived id query

end Relation

namespace Table

/-- A column of the table. -/
def column (table : Table) (name : String) : Column := ⟨table.id, name⟩

/-- All columns of the table. -/
def star (table : Table) : Column := table.column "*"

end Table

namespace IdentitySupply

/-- A table with a fresh identity. -/
def table (supply : IdentitySupply) (name : String) (schema : Option String) :
    Table × IdentitySupply :=
  (⟨supply.fresh.1, name, schema⟩, supply.fresh.2)

/-- A common table expression without a name, with a fresh identity. -/
def cte (supply : IdentitySupply) (query : Statement) : Cte × IdentitySupply :=
  (⟨supply.fresh.1, none, [], false, query⟩, supply.fresh.2)

/-- A common table expression with a name, with a fresh identity. -/
def namedCte (supply : IdentitySupply) (name : String) (query : Statement) :
    Cte × IdentitySupply :=
  (⟨supply.fresh.1, some name, [], false, query⟩, supply.fresh.2)

/-- A recursive common table expression, with a fresh identity. Its query refers to it by name. -/
def recursiveCte (supply : IdentitySupply) (name : String) (columns : List String)
    (query : Statement) : Cte × IdentitySupply :=
  (⟨supply.fresh.1, some name, columns, true, query⟩, supply.fresh.2)

/-- A derived table with a fresh identity. -/
def derived (supply : IdentitySupply) (query : Statement) : Relation × IdentitySupply :=
  (.derived supply.fresh.1 query, supply.fresh.2)

end IdentitySupply

/-! ### Expressions -/

namespace Expr

/-- A host value as an expression. -/
def ofValue {α : Type} [ToValue α] (value : α) : Expr := .literal (toValue value)

/-- The number of rows. -/
def countStar : Expr := .call "COUNT" false [.star]

/-- The conjunction of any number of conditions. -/
def all (conditions : List Expr) : Expr := .connected .and conditions

/-- The disjunction of any number of conditions. -/
def any (conditions : List Expr) : Expr := .connected .or conditions

end Expr

/-- A CASE whose branches are not all given yet. -/
structure Case where
  /-- The conditions and results so far. -/
  branches : List (Expr × Expr) := []
  /-- The result where no condition holds. -/
  fallback : Option Expr := none

namespace Case

/-- Adds a branch behind those that are there. -/
def whenThen (case : Case) (condition result : Expr) : Case :=
  { case with branches := case.branches ++ [(condition, result)] }

/-- Sets the result where no condition holds. -/
def otherwise (case : Case) (result : Expr) : Case := { case with fallback := some result }

/-- The CASE as an expression. -/
def toExpr (case : Case) : Expr := .caseWhen case.branches case.fallback

end Case

namespace ResultItem

/-- An item without a name of its own. -/
def plain (expr : Expr) : ResultItem := ⟨expr, none⟩

/-- An item with a name. -/
def named (expr : Expr) (name : String) : ResultItem := ⟨expr, some name⟩

end ResultItem

namespace OrderTerm

/-- Sorts in the direction that the database chooses. -/
def plain (expr : Expr) : OrderTerm := ⟨expr, none, none⟩

/-- Sorts upwards. -/
def ascending (expr : Expr) : OrderTerm := ⟨expr, some .ascending, none⟩

/-- Sorts downwards. -/
def descending (expr : Expr) : OrderTerm := ⟨expr, some .descending, none⟩

/-- Puts NULLs first. -/
def nullsFirst (term : OrderTerm) : OrderTerm := { term with nulls := some .first }

/-- Puts NULLs last. -/
def nullsLast (term : OrderTerm) : OrderTerm := { term with nulls := some .last }

end OrderTerm

/-! ### SELECT -/

namespace Select

/-- The SELECT without any clause. -/
def blank : Select := ⟨[], false, [], [], none, [], none, [], none, none⟩

/-- Adds items to the select list. -/
def selecting (select : Select) (items : List ResultItem) : Select :=
  { select with columns := select.columns ++ items }

/-- Adds a source of rows. -/
def fromSource (select : Select) (source : RowSource) : Select :=
  { select with sources := select.sources ++ [source] }

/-- Sets the WHERE condition. -/
def filtered (select : Select) (condition : Expr) : Select :=
  { select with filter := some condition }

/-- Adds GROUP BY keys. -/
def groupedBy (select : Select) (keys : List Expr) : Select :=
  { select with grouping := select.grouping ++ keys }

/-- Sets the HAVING condition. -/
def groupsFiltered (select : Select) (condition : Expr) : Select :=
  { select with having := some condition }

/-- Adds ORDER BY keys. -/
def orderedBy (select : Select) (terms : List OrderTerm) : Select :=
  { select with ordering := select.ordering ++ terms }

/-- Sets how many rows are wanted at most. -/
def limitedTo (select : Select) (count : Nat) : Select := { select with limit := some count }

/-- Sets how many rows are skipped. -/
def skipping (select : Select) (count : Nat) : Select := { select with offset := some count }

/-- Merges equal rows. -/
def distinctRows (select : Select) : Select := { select with distinct := true }

/-- Adds a common table expression. -/
def withCte (select : Select) (cte : Cte) : Select := { select with ctes := select.ctes ++ [cte] }

end Select

/-- A SELECT of items from a relation. -/
def Relation.select (relation : Relation) (items : List ResultItem) : Select :=
  (Select.blank.selecting items).fromSource relation.rowSource

/-- A SELECT of all columns of a table. -/
def Table.selectAll (table : Table) : Select := Select.blank.fromSource (.table table)

/-! ### UPDATE -/

namespace Update

/-- The UPDATE of a table that assigns nothing. -/
def blank (table : Table) : Update := ⟨[], table, [], .each [], [], none, []⟩

/-- Adds assigned columns. -/
def assigning (update : Update) (columns : List Column) : Update :=
  { update with columns := update.columns ++ columns }

/-- Replaces the assigned values by one for each column. -/
def givenValues (update : Update) (values : List Expr) : Update :=
  { update with values := .each values }

/-- Replaces the assigned values by one query for all columns. -/
def givenQuery (update : Update) (query : Statement) : Update :=
  { update with values := .fromQuery query }

/-- Adds the assignment of one value to one column. A query that supplies the values so far keeps
the columns before it. -/
def assign (update : Update) (column : Column) (value : Expr) : Update :=
  { update with
    columns := update.columns ++ [column]
    values :=
      match update.values with
      | .each values => .each (values ++ [value])
      | .fromQuery source => .queryThenEach source [value]
      | .queryThenEach source rest => .queryThenEach source (rest ++ [value]) }

/-- Adds a source of rows. -/
def fromSource (update : Update) (source : RowSource) : Update :=
  { update with sources := update.sources ++ [source] }

/-- Sets the WHERE condition. -/
def filtered (update : Update) (condition : Expr) : Update :=
  { update with filter := some condition }

/-- Adds items to the RETURNING list. -/
def returningItems (update : Update) (items : List ResultItem) : Update :=
  { update with returning := update.returning ++ items }

/-- Adds a common table expression. -/
def withCte (update : Update) (cte : Cte) : Update := { update with ctes := update.ctes ++ [cte] }

end Update

/-- The UPDATE of a table that assigns the values to the columns one by one. -/
def Table.update (table : Table) (columns : List Column) (values : List Expr) : Update :=
  ((Update.blank table).assigning columns).givenValues values

/-! ### INSERT -/

namespace ConflictClause

/-- Skips rows that conflict with any constraint. -/
def any : ConflictClause := ⟨[], .doNothing⟩

/-- Skips rows that conflict on the given columns. -/
def columns (target : List Column) : ConflictClause := ⟨target, .doNothing⟩

/-- Skips rows that conflict. -/
def skip (conflict : ConflictClause) : ConflictClause := { conflict with response := .doNothing }

/-- Updates the row that is there, with one more assignment. -/
def assign (conflict : ConflictClause) (column : Column) (value : Expr) : ConflictClause :=
  { conflict with
    response :=
      match conflict.response with
      | .doNothing => .doUpdate [⟨column, value⟩] none
      | .doUpdate assignments filter => .doUpdate (assignments ++ [⟨column, value⟩]) filter }

/-- Updates the row that is there only where a condition holds. -/
def filtered (conflict : ConflictClause) (condition : Expr) : ConflictClause :=
  { conflict with
    response :=
      match conflict.response with
      | .doNothing => .doUpdate [] (some condition)
      | .doUpdate assignments _ => .doUpdate assignments (some condition) }

end ConflictClause

namespace Insert

/-- The INSERT of one row of defaults into a table. -/
def blank (table : Table) : Insert := ⟨[], table, [], .defaults, none, []⟩

/-- Adds named columns. -/
def naming (insert : Insert) (columns : List Column) : Insert :=
  { insert with columns := insert.columns ++ columns }

/-- Adds a row of values; any other source of rows is replaced. -/
def row (insert : Insert) (values : List Expr) : Insert :=
  { insert with
    rows :=
      match insert.rows with
      | .listed before => .listed (before ++ [values])
      | _ => .listed [values] }

/-- Inserts the rows of a query. -/
def fromQuery (insert : Insert) (query : Statement) : Insert :=
  { insert with rows := .fromQuery query }

/-- Inserts one row of defaults. -/
def defaultRow (insert : Insert) : Insert := { insert with rows := .defaults }

/-- Sets what is done on a conflict. -/
def onConflict (insert : Insert) (conflict : ConflictClause) : Insert :=
  { insert with conflict := some conflict }

/-- Adds items to the RETURNING list. -/
def returningItems (insert : Insert) (items : List ResultItem) : Insert :=
  { insert with returning := insert.returning ++ items }

/-- Adds a common table expression. -/
def withCte (insert : Insert) (cte : Cte) : Insert := { insert with ctes := insert.ctes ++ [cte] }

/-- Overwrites the given columns with those of the proposed row where a row conflicts on the
target, or skips the row if no columns are given. -/
def upsert (insert : Insert) (target updated : List Column) : Insert :=
  insert.onConflict
    (updated.foldl (fun conflict column ↦ conflict.assign column (.excluded column.name))
      (ConflictClause.columns target))

/-- Skips rows that conflict on the target. -/
def orIgnore (insert : Insert) (target : List Column) : Insert := insert.upsert target []

end Insert

/-! ### DELETE -/

namespace Delete

/-- The DELETE of all rows of a table. -/
def blank (table : Table) : Delete := ⟨[], table, [], none, []⟩

/-- Adds a source of rows. -/
def fromSource (delete : Delete) (source : RowSource) : Delete :=
  { delete with sources := delete.sources ++ [source] }

/-- Sets the WHERE condition. -/
def filtered (delete : Delete) (condition : Expr) : Delete :=
  { delete with filter := some condition }

/-- Adds items to the RETURNING list. -/
def returningItems (delete : Delete) (items : List ResultItem) : Delete :=
  { delete with returning := delete.returning ++ items }

/-- Adds a common table expression. -/
def withCte (delete : Delete) (cte : Cte) : Delete := { delete with ctes := delete.ctes ++ [cte] }

end Delete

end BoundSql
