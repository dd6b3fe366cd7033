/-!
# Dialects

All that differs between databases and matters to rendering is a handful of questions: which quote
stands around identifiers, how placeholders and LIMIT are spelled, and which clauses exist. A
`Dialect` is the record of a database's answers; the default answers are those of a plain dialect,
of which the four named ones differ in a few.
-/

set_option autoImplicit false
set_option relaxedAutoImplicit false

namespace BoundSql

/-- How a placeholder is written in the text. -/
inductive ParamStyle where
  /-- Every placeholder is `%s`, and a percent sign of the text itself is doubled. -/
  | format
  /-- Every placeholder is `?`. -/
  | qmark
  /-- Placeholders are `$1`, `$2`, … in the order of the text. -/
  | numeric
deriving DecidableEq, Repr, Inhabited

/-- The placeholder of the value at a position, counted from one. -/
def ParamStyle.marker : ParamStyle → Nat → String
  | .format, _ => "%s"
  | .qmark, _ => "?"
  | .numeric, position => "$" ++ toString position

/-- Tells whether a percent sign of the text itself has to be doubled. -/
def ParamStyle.doublesPercent : ParamStyle → Bool
  | .format => true
  | .qmark | .numeric => false

/-- How the bounds of a result are written. -/
inductive PagingStyle where
  /-- Written `LIMIT n OFFSET m`. -/
  | limit
  /-- Written `OFFSET m ROWS FETCH FIRST n ROWS ONLY`. -/
  | fetch
deriving DecidableEq, Repr, Inhabited

/-- The answers in which databases differ. -/
structure Dialect where
  /-- The dialect's name, used in messages. -/
  name : String := "custom"
  /-- The quote around identifiers. -/
  quote : Char := '"'
  /-- The spelling of placeholders. -/
  paramStyle : ParamStyle := .format
  /-- The spelling of LIMIT and OFFSET. -/
  paging : PagingStyle := .limit
  /-- The limit to write where only an offset is given, for databases that refuse a bare one. -/
  unboundedLimit : Option Int64 := none
  /-- Whether AS stands between a table and its alias. -/
  aliasKeyword : Bool := true
  /-- Whether RETURNING exists. -/
  hasReturning : Bool := true
  /-- Whether the target of an INSERT may carry an alias. -/
  aliasesInsert : Bool := true
deriving DecidableEq, Inhabited

namespace Dialect

/-- The dialect used where none is named. -/
def generic : Dialect where
  name := "generic"

/-- The dialect with numbered placeholders. -/
def postgres : Dialect where
  name := "postgres"
  paramStyle := .numeric

/-- The dialect with backtick quotes, which has neither RETURNING nor an alias on the target of an
INSERT and refuses an offset without a limit. -/
def mysql : Dialect where
  name := "mysql"
  quote := '\x60'
  unboundedLimit := some Int64.maxValue
  hasReturning := false
  aliasesInsert := false

/-- The dialect with question marks, in which a negative limit means none. -/
def sqlite : Dialect where
  name := "sqlite"
  paramStyle := .qmark
  unboundedLimit := some (-1)

end Dialect

end BoundSql
