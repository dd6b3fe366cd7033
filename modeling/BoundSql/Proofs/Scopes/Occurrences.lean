import BoundSql.Render

/-!
# Where relations occur in a tree

`Statement.occurrences` lists where a statement defines a common table expression, lists a relation
in a FROM, USING or JOIN position or as its target, and names the relation of a column inside an
expression. The list follows the text, and what a nested statement holds stays together as one
occurrence, so it says which statement lists which relation. It knows neither dialects nor aliases.
`Statement.ColumnsInScope` says that every column inside an expression belongs to a relation that
its own statement or a statement around it lists. Columns that are assigned, inserted or named by a
conflict clause stand outside of expressions and are left out.
-/

set_option autoImplicit false
set_option relaxedAutoImplicit false

namespace BoundSql

/-- A place of a tree at which a relation occurs. -/
inductive Occurrence where
  /-- An entry of a WITH list, with its name if it has one. -/
  | definition (relation : Identity) (name : Option String)
  /-- A table in a FROM, USING or JOIN position, or the target of an UPDATE or DELETE. -/
  | table (source : Table)
  /-- The target of an INSERT. -/
  | insertTarget (source : Table)
  /-- A common table expression or a derived table in a FROM, USING or JOIN position. -/
  | item (relation : Identity)
  /-- A column inside an expression. -/
  | column (relation : Identity)
  /-- A nested statement with its own occurrences. -/
  | statement (inside : List Occurrence)

/-! ### Expressions, sources of rows and statements -/

mutual

/-- The occurrences in an expression. -/
def Expr.occurrences : Expr → List Occurrence
  | .column reference => [.column reference.relation]
  | .literal _ | .star | .defaultValue | .excluded _ => []
  | .unary _ operand => operand.occurrences
  | .binary _ left right => left.occurrences ++ right.occurrences
  | .connected _ operands => Expr.occurrencesEach operands
  | .call _ _ arguments => Expr.occurrencesEach arguments
  | .collate operand _ => operand.occurrences
  | .subquery query => query.occurrences
  | .inList tested _ candidates => tested.occurrences ++ Expr.occurrencesEach candidates
  | .inQuery tested _ query => tested.occurrences ++ query.occurrences
  | .between tested _ low high => tested.occurrences ++ low.occurrences ++ high.occurrences
  | .cast operand _ => operand.occurrences
  | .caseWhen branches otherwise =>
    Expr.occurrencesBranches branches ++ Expr.occurrences? otherwise
  | .existsQuery query => query.occurrences

/-- The occurrences in a list of expressions. -/
def Expr.occurrencesEach : List Expr → List Occurrence
  | [] => []
  | first :: rest => first.occurrences ++ Expr.occurrencesEach rest

/-- The occurrences in an expression that may be absent. -/
def Expr.occurrences? : Option Expr → List Occurrence
  | none => []
  | some present => present.occurrences

/-- The occurrences in the branches of a CASE. -/
def Expr.occurrencesBranches : List (Expr × Expr) → List Occurrence
  | [] => []
  | (condition, result) :: rest =>
    condition.occurrences ++ result.occurrences ++ Expr.occurrencesBranches rest

/-- The occurrences in a list of rows. -/
def Expr.occurrencesRows : List (List Expr) → List Occurrence
  | [] => []
  | first :: rest => Expr.occurrencesEach first ++ Expr.occurrencesRows rest

/-- The occurrences in a source of rows. A derived table is listed behind its query. -/
def RowSource.occurrences : RowSource → List Occurrence
  | .table source => [.table source]
  | .cte id _ => [.item id]
  | .derived id query => query.occurrences ++ [.item id]
  | .join _ left right condition =>
    left.occurrences ++ right.occurrences ++ Expr.occurrences? condition

/-- The occurrences in a list of sources of rows. -/
def RowSource.occurrencesEach : List RowSource → List Occurrence
  | [] => []
  | first :: rest => first.occurrences ++ RowSource.occurrencesEach rest

/-- The occurrences in the definition of a common table expression. -/
def Cte.occurrences : Cte → List Occurrence
  | ⟨id, name, _, _, query⟩ => .definition id name :: query.occurrences

/-- The occurrences in a WITH list. -/
def Cte.occurrencesEach : List Cte → List Occurrence
  | [] => []
  | first :: rest => first.occurrences ++ Cte.occurrencesEach rest

/-- The occurrences in an item of a select list or of a RETURNING clause. -/
def ResultItem.occurrences : ResultItem → List Occurrence
  | ⟨expr, _⟩ => expr.occurrences

/-- The occurrences in a list of items. -/
def ResultItem.occurrencesEach : List ResultItem → List Occurrence
  | [] => []
  | first :: rest => first.occurrences ++ ResultItem.occurrencesEach rest

/-- The occurrences in a sort key. -/
def OrderTerm.occurrences : OrderTerm → List Occurrence
  | ⟨expr, _, _⟩ => expr.occurrences

/-- The occurrences in a list of sort keys. -/
def OrderTerm.occurrencesEach : List OrderTerm → List Occurrence
  | [] => []
  | first :: rest => first.occurrences ++ OrderTerm.occurrencesEach rest

/-- The occurrences in an assignment. The assigned column stands outside of expressions. -/
def Assignment.occurrences : Assignment → List Occurrence
  | ⟨_, expr⟩ => expr.occurrences

/-- The occurrences in a list of assignments. -/
def Assignment.occurrencesEach : List Assignment → List Occurrence
  | [] => []
  | first :: rest => first.occurrences ++ Assignment.occurrencesEach rest

/-- The occurrences in what is done on a conflict. -/
def ConflictResponse.occurrences : ConflictResponse → List Occurrence
  | .doNothing => []
  | .doUpdate assignments filter =>
    Assignment.occurrencesEach assignments ++ Expr.occurrences? filter

/-- The occurrences in an ON CONFLICT clause. -/
def ConflictClause.occurrences : ConflictClause → List Occurrence
  | ⟨_, response⟩ => response.occurrences

/-- The occurrences in an ON CONFLICT clause that may be absent. -/
def ConflictClause.occurrences? : Option ConflictClause → List Occurrence
  | none => []
  | some present => present.occurrences

/-- The occurrences in the values of an UPDATE. -/
def NewValues.occurrences : NewValues → List Occurrence
  | .each values => Expr.occurrencesEach values
  | .fromQuery source => source.occurrences
  | .queryThenEach source rest => source.occurrences ++ Expr.occurrencesEach rest

/-- The occurrences in the rows of an INSERT. -/
def NewRows.occurrences : NewRows → List Occurrence
  | .defaults => []
  | .listed rows => Expr.occurrencesRows rows
  | .fromQuery source => source.occurrences

/-- The occurrences of a SELECT, as one. -/
def Select.occurrences : Select → List Occurrence
  | ⟨ctes, _, columns, sources, filter, grouping, having, ordering, _, _⟩ =>
    [.statement
      (Cte.occurrencesEach ctes ++ ResultItem.occurrencesEach columns ++
        RowSource.occurrencesEach sources ++ Expr.occurrences? filter ++
        Expr.occurrencesEach grouping ++ Expr.occurrences? having ++
        OrderTerm.occurrencesEach ordering)]

/-- The occurrences of an UPDATE, as one. -/
def Update.occurrences : Update → List Occurrence
  | ⟨ctes, table, _, values, sources, filter, returning⟩ =>
    [.statement
      (Cte.occurrencesEach ctes ++ [.table table] ++ values.occurrences ++
        RowSource.occurrencesEach sources ++ Expr.occurrences? filter ++
        ResultItem.occurrencesEach returning)]

/-- The occurrences of an INSERT, as one. -/
def Insert.occurrences : Insert → List Occurrence
  | ⟨ctes, table, _, rows, conflict, returning⟩ =>
    [.statement
      (Cte.occurrencesEach ctes ++ [.insertTarget table] ++ rows.occurrences ++
        ConflictClause.occurrences? conflict ++ ResultItem.occurrencesEach returning)]

/-- The occurrences of a DELETE, as one. -/
def Delete.occurrences : Delete → List Occurrence
  | ⟨ctes, table, sources, filter, returning⟩ =>
    [.statement
      (Cte.occurrencesEach ctes ++ [.table table] ++ RowSource.occurrencesEach sources ++
        Expr.occurrences? filter ++ ResultItem.occurrencesEach returning)]

/-- The occurrences of a statement, as one. -/
def Statement.occurrences : Statement → List Occurrence
  | .select statement => statement.occurrences
  | .update statement => statement.occurrences
  | .insert statement => statement.occurrences
  | .delete statement => statement.occurrences
termination_by structural statement => statement

end

/-! ### Depth -/

namespace Occurrence

mutual

/-- The occurrences at a place, those inside of statements in place of the statements. -/
def flat : Occurrence → List Occurrence
  | statement inside => flatAll inside
  | definition relation name => [definition relation name]
  | table source => [table source]
  | insertTarget source => [insertTarget source]
  | item relation => [item relation]
  | column relation => [column relation]

/-- The occurrences at several places and at any depth. -/
def flatAll : List Occurrence → List Occurrence
  | [] => []
  | first :: rest => first.flat ++ flatAll rest

end

end Occurrence

/-! ### Scopes -/

namespace Occurrence

/-- The relation that the place lists as a source of rows or as a target. -/
def listed? : Occurrence → Option Identity
  | table source => some source.id
  | insertTarget source => some source.id
  | item relation => some relation
  | _ => none

/-- The relations that a statement lists, those of nested statements left out. -/
def listed (inside : List Occurrence) : List Identity := inside.filterMap listed?

mutual

/-- A column in the scope of the statements around it, of which the innermost comes first, or a
statement all of whose columns are in scope. -/
def InScope (scopes : List (List Identity)) : Occurrence → Prop
  | column relation => ∃ relations ∈ scopes, relation ∈ relations
  | statement inside => AllInScope (listed inside :: scopes) inside
  | _ => True

/-- All columns are in the scope of the statements around them. -/
def AllInScope (scopes : List (List Identity)) : List Occurrence → Prop
  | [] => True
  | first :: rest => first.InScope scopes ∧ AllInScope scopes rest

end

mutual

/-- Decides whether a column, or all columns of a statement, are in scope. -/
def decideInScope (scopes : List (List Identity)) :
    (occurrence : Occurrence) → Decidable (occurrence.InScope scopes)
  | column relation => inferInstanceAs (Decidable (∃ relations ∈ scopes, relation ∈ relations))
  | statement inside => decideAllInScope (listed inside :: scopes) inside
  | definition _ _ | table _ | insertTarget _ | item _ => isTrue trivial

/-- Decides whether all columns are in scope. -/
def decideAllInScope (scopes : List (List Identity)) :
    (occurrences : List Occurrence) → Decidable (AllInScope scopes occurrences)
  | [] => isTrue trivial
  | first :: rest =>
    @instDecidableAnd _ _ (decideInScope scopes first) (decideAllInScope scopes rest)

end

end Occurrence

/-- Every column inside an expression belongs to a relation that its own statement or a statement
around it lists in a FROM, USING or JOIN position or has as its target. -/
def Statement.ColumnsInScope (statement : Statement) : Prop :=
  Occurrence.AllInScope [] statement.occurrences

instance (statement : Statement) : Decidable statement.ColumnsInScope :=
  Occurrence.decideAllInScope [] statement.occurrences

end BoundSql
