import BoundSql.Text.Quoted
import BoundSql.Tree.Operator

/-!
# Why a tree cannot be rendered

Building a tree never fails; names and shapes are checked when the tree is rendered. `Refusal`
has one constructor per kind of failure, whose argument is the cause: `NameFault` for a name or a
bare word that is refused, `Malformation` for a combination of clauses that no statement has.
`Refusal.message` is the one place that holds the wording.
-/

set_option autoImplicit false
set_option relaxedAutoImplicit false

namespace BoundSql

/-- Why a name cannot be written. -/
inductive NameFault where
  /-- The name has no characters. -/
  | empty
  /-- The name could close its own quotes. -/
  | containsQuote
  /-- The name holds the character NUL. -/
  | containsNul
  /-- The name holds a percent sign where placeholders are written with one. -/
  | containsPercent
  /-- The text is no function name. -/
  | notFunctionName
  /-- The text is no type name. -/
  | notTypeName
deriving DecidableEq, Repr, Inhabited

/-- The wording of a name's fault. -/
def NameFault.reason : NameFault → String
  | .empty => "identifier is empty"
  | .containsQuote => "identifier contains the quote character"
  | .containsNul => "identifier contains a NUL byte"
  | .containsPercent => "identifier contains '%' under format placeholders"
  | .notFunctionName => "function name outside [A-Za-z_][A-Za-z0-9_]*"
  | .notTypeName => "type name contains characters outside the allow-list"

/-- Combinations of clauses that no statement has. -/
inductive Malformation where
  /-- A connective without operands. -/
  | noOperands (connective : Connective)
  /-- IN with nothing to choose from. -/
  | emptyIn
  /-- CASE without a WHEN branch. -/
  | caseWithoutBranches
  /-- CROSS JOIN with a condition. -/
  | crossJoinWithCondition
  /-- Any other join without a condition. -/
  | joinWithoutCondition (kind : JoinKind)
  /-- An assigned or inserted column of another relation than the target. -/
  | foreignColumn (column table : String)
  /-- UPDATE that assigns nothing. -/
  | updateWithoutColumns
  /-- UPDATE with as many values as columns it has not. -/
  | updateValueCount (values columns : Nat)
  /-- UPDATE from a query of another width than its columns. -/
  | updateQueryWidth (width columns : Nat)
  /-- UPDATE whose single values leave no column to the query. -/
  | updateQueryRest (values columns : Nat)
  /-- INSERT that names columns but gives no values. -/
  | insertColumnsWithoutValues
  /-- INSERT of rows that names no columns. -/
  | insertRowsWithoutColumns
  /-- INSERT of no rows. -/
  | insertWithoutRows
  /-- INSERT of a row with another number of values than columns. -/
  | insertRowWidth (values columns : Nat)
  /-- INSERT from a query of another width than its columns. -/
  | insertQueryWidth (width columns : Nat)
  /-- ON CONFLICT under a dialect without it. -/
  | conflictUnsupported (dialect : String)
  /-- DO UPDATE that assigns nothing. -/
  | conflictWithoutAssignments
  /-- RETURNING under a dialect without it. -/
  | returningUnsupported (dialect : String)
deriving DecidableEq, Repr, Inhabited

/-- The wording of a malformation. -/
def Malformation.message : Malformation → String
  | .noOperands connective => connective.spelling ++ " without operands"
  | .emptyIn => "IN with an empty list"
  | .caseWithoutBranches => "CASE without WHEN branches"
  | .crossJoinWithCondition => "CROSS JOIN cannot have an ON condition"
  | .joinWithoutCondition kind => kind.spelling ++ " requires an ON condition"
  | .foreignColumn column table =>
    "column " ++ Text.quoted column ++ " does not belong to the target table " ++
      Text.quoted table
  | .updateWithoutColumns => "UPDATE without target columns"
  | .updateValueCount values columns =>
    "UPDATE assigns " ++ toString values ++ " values to " ++ toString columns ++ " columns"
  | .updateQueryWidth width columns =>
    "UPDATE assigns a " ++ toString width ++ "-column subquery to " ++ toString columns ++
      " columns"
  | .updateQueryRest values columns =>
    "UPDATE assigns a subquery and " ++ toString values ++ " values to " ++ toString columns ++
      " columns"
  | .insertColumnsWithoutValues => "INSERT with columns but no values"
  | .insertRowsWithoutColumns => "INSERT rows without a column list"
  | .insertWithoutRows => "INSERT without rows"
  | .insertRowWidth values columns =>
    "INSERT row has " ++ toString values ++ " values for " ++ toString columns ++ " columns"
  | .insertQueryWidth width columns =>
    "INSERT of a " ++ toString width ++ "-column query into " ++ toString columns ++ " columns"
  | .conflictUnsupported dialect =>
    "ON CONFLICT is not supported by the " ++ dialect ++ " dialect"
  | .conflictWithoutAssignments => "ON CONFLICT DO UPDATE without assignments"
  | .returningUnsupported dialect =>
    "RETURNING is not supported by the " ++ dialect ++ " dialect"

/-- Why a tree cannot be rendered. -/
inductive Refusal where
  /-- A name, or a bare word in the place of one, is refused. -/
  | badName (name : String) (fault : NameFault)
  /-- The clauses do not fit together. -/
  | malformed (fault : Malformation)
  /-- A subquery stands where one column is required but yields `width` of them. -/
  | subqueryWidth (width : Nat)
deriving DecidableEq, Repr, Inhabited

/-- The full text of an error. -/
def Refusal.message : Refusal → String
  | .badName name fault =>
    "Invalid identifier " ++ Text.quoted name ++ ": " ++ fault.reason
  | .malformed fault => "Malformed statement: " ++ fault.message
  | .subqueryWidth width =>
    "Type mismatch: expected single-column subquery, found subquery with " ++ toString width ++
      " columns"

end BoundSql
