/-!
# Operators and joins

The operators an expression may apply and the kinds of join a FROM item may use, each with the
one spelling it has in every dialect. The only operator whose written form depends on the dialect
is `BinaryOp.mod`, whose percent sign is doubled where placeholders are written with one; that
belongs to the layout of expressions.
-/

set_option autoImplicit false
set_option relaxedAutoImplicit false

namespace BoundSql

/-- Operators on one operand. -/
inductive UnaryOp where
  | not | neg | isNull | isNotNull
deriving DecidableEq, Repr, Inhabited

/-- The SQL spelling of a unary operator. -/
def UnaryOp.spelling : UnaryOp → String
  | .not => "NOT"
  | .neg => "-"
  | .isNull => "IS NULL"
  | .isNotNull => "IS NOT NULL"

/-- Tells whether the operator is written after its operand. -/
def UnaryOp.isPostfix : UnaryOp → Bool
  | .not | .neg => false
  | .isNull | .isNotNull => true

/-- Operators on two operands. -/
inductive BinaryOp where
  | eq | notEq | lt | ltEq | gt | gtEq
  | add | sub | mul | div | mod
  | concat
  | like | notLike | ilike | notIlike
  | isDistinctFrom | isNotDistinctFrom
deriving DecidableEq, Repr, Inhabited

/-- The SQL spelling of a binary operator. -/
def BinaryOp.spelling : BinaryOp → String
  | .eq => "="
  | .notEq => "!="
  | .lt => "<"
  | .ltEq => "<="
  | .gt => ">"
  | .gtEq => ">="
  | .add => "+"
  | .sub => "-"
  | .mul => "*"
  | .div => "/"
  | .mod => "%"
  | .concat => "||"
  | .like => "LIKE"
  | .notLike => "NOT LIKE"
  | .ilike => "ILIKE"
  | .notIlike => "NOT ILIKE"
  | .isDistinctFrom => "IS DISTINCT FROM"
  | .isNotDistinctFrom => "IS NOT DISTINCT FROM"

/-- Connectives over any number of operands. -/
inductive Connective where
  | and | or
deriving DecidableEq, Repr, Inhabited

/-- The SQL spelling of a connective. -/
def Connective.spelling : Connective → String
  | .and => "AND"
  | .or => "OR"

/-- Kinds of join. -/
inductive JoinKind where
  | inner | left | right | full | cross
deriving DecidableEq, Repr, Inhabited

/-- The SQL keywords of a kind of join. -/
def JoinKind.spelling : JoinKind → String
  | .inner => "INNER JOIN"
  | .left => "LEFT JOIN"
  | .right => "RIGHT JOIN"
  | .full => "FULL JOIN"
  | .cross => "CROSS JOIN"

/-- Sort directions. -/
inductive SortDirection where
  | ascending | descending
deriving DecidableEq, Repr, Inhabited

/-- The SQL keyword of a sort direction. -/
def SortDirection.spelling : SortDirection → String
  | .ascending => "ASC"
  | .descending => "DESC"

/-- Where a sort puts NULLs. -/
inductive NullsPlacement where
  | first | last
deriving DecidableEq, Repr, Inhabited

/-- The SQL keywords of a placement of NULLs. -/
def NullsPlacement.spelling : NullsPlacement → String
  | .first => "NULLS FIRST"
  | .last => "NULLS LAST"

end BoundSql
