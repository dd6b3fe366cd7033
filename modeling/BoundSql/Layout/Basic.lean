import BoundSql.Refusal
import BoundSql.Roster
import BoundSql.Value

/-!
# Layouts

A `Layout` says what a tree writes and in which order its relations are met. The two orders differ:
a statement meets the relations of its FROM clause before those of its select list, although the
select list is written first. `Layout.frame` is the one place where they part; all other layouts
write and meet from left to right. A layout carries the errors of its tree where a reader going
through it in order would meet them.
-/

set_option autoImplicit false
set_option relaxedAutoImplicit false

namespace BoundSql

/-- What a tree writes, and in which order its relations are met. -/
inductive Layout where
  /-- Nothing is written. -/
  | nothing
  /-- Text that is written as it stands. -/
  | text (characters : String)
  /-- A value, written as a placeholder. -/
  | placeholder (bound : Value)
  /-- A name between the dialect's quotes. -/
  | identifier (name : String)
  /-- The relation is met, but nothing is written. -/
  | visit (relation : Identity)
  /-- The quoted alias of a relation, with `lead` in front of it. -/
  | relationAlias (lead : String) (relation : Identity)
  /-- The quoted alias of a relation and a dot inside a statement, and nothing outside. -/
  | qualifier (relation : Identity)
  /-- The tree cannot be rendered. -/
  | fail (error : Refusal)
  /-- One layout after the other. -/
  | seq (first second : Layout)
  /-- A statement, one level deeper. -/
  | scope (body : Layout)
  /-- A frame meets `prologue`, `body` and `front` in this order and writes nothing until all three
  are complete. Then it writes `prologue` and `front`, goes through `link`, and writes `body`. -/
  | frame (prologue body front link : Layout)
deriving Inhabited

namespace Layout

instance : Append Layout := ⟨seq⟩

instance : EmptyCollection Layout := ⟨nothing⟩

/-- Fails if there is an error, and writes nothing otherwise. -/
def require : Option Refusal → Layout
  | none => nothing
  | some error => fail error

/-- A layout that writes all of its text or nothing. -/
def atomic (body : Layout) : Layout := frame nothing body nothing nothing

/-- One layout after the other, with a text between neighbours. -/
def separated (separator : String) : List Layout → Layout
  | [] => nothing
  | [last] => last
  | first :: rest => first ++ text separator ++ separated separator rest

/-- A list of layouts with commas between neighbours. -/
def commaSeparated (layouts : List Layout) : Layout := separated ", " layouts

/-- A layout behind a keyword, or nothing if there is no layout. -/
def clause (keyword : String) : Option Layout → Layout
  | none => nothing
  | some body => text keyword ++ body

/-- A list with commas behind a keyword, or nothing if the list is empty. -/
def listClause (keyword : String) (layouts : List Layout) : Layout :=
  if layouts.isEmpty then nothing else text keyword ++ commaSeparated layouts

/-- A layout in parentheses. -/
def parenthesized (body : Layout) : Layout := text "(" ++ body ++ text ")"

end Layout

end BoundSql
