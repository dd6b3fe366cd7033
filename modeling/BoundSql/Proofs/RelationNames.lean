import BoundSql.Proofs.Nesting.Standing
import BoundSql.Proofs.Reading.Marked
import BoundSql.Proofs.Reading.Spelling

/-!
# Names of relations, in the text

A statement writes the name of a relation where an entry of its WITH list defines one, where it has
a table as its target, and where it lists a table or a common table expression as a source of rows.
The outline of names marks these places in its text: what the marks stand for, put together, is the
text of the statement (`Statement.flatMap_tokens_nameOutline`), and the marked places are those that
the tree has (`Statement.marked_nameOutline`). So in a rendered text every name stands where the
tree says (`Node.namesWritten_of_within`): a common table expression without a name is written as
its alias, and all other names as the tree supplies them, between quotes.
-/

set_option autoImplicit false
set_option relaxedAutoImplicit false

namespace BoundSql

/-- A place at which the name of a relation is written. -/
inductive NamePlace where
  /-- The name that an entry of a WITH list defines. -/
  | entry (relation : Identity) (name : Option String)
  /-- The name of a common table expression in a FROM, USING or JOIN position. -/
  | reference (relation : Identity) (name : Option String)
  /-- The name of a table in a FROM, USING or JOIN position, or of a target. -/
  | table (source : Table)

namespace NamePlace

/-- The tokens that are written at the place. -/
def tokens (d : Dialect) : NamePlace → List Token
  | entry relation name | reference relation name => Cte.readName (.tokens d) relation name
  | table source => source.readName (.tokens d)

/-- The text at the place: the name between quotes, or the alias of a relation without a name, and
the name of a table behind its schema if it has one. -/
def written (d : Dialect) (aliasOf : Identity → String) : NamePlace → String
  | entry relation name | reference relation name => d.enclose (name.getD (aliasOf relation))
  | table source =>
    (match source.schema with
      | some schema => d.enclose schema ++ "."
      | none => "") ++
    d.enclose source.name

/-- The name that the place defines, if it is an entry of a WITH list. -/
def defined? (aliasOf : Identity → String) : NamePlace → Option String
  | entry relation name => some (name.getD (aliasOf relation))
  | _ => none

/-- The name of the table at the place, if no schema stands in front of it. -/
def tableName? : NamePlace → Option String
  | table source => if source.schema = none then some source.name else none
  | _ => none

variable {d : Dialect} {aliasOf : Identity → String}

/-- A name that a WITH list defines, and the name of a table without a schema, is all that is
written at its place. -/
theorem written_eq_enclose {place : NamePlace} {name : String}
    (hname : place.defined? aliasOf = some name ∨ place.tableName? = some name) :
    place.written d aliasOf = d.enclose name := by
  cases place with
  | entry relation supplied =>
    obtain hname | hname := hname
    · obtain rfl := Option.some.inj hname
      rfl
    · cases hname
  | reference relation supplied => rcases hname with hname | hname <;> cases hname
  | table source =>
    obtain hname | hname := hname
    · cases hname
    · obtain ⟨relation, supplied, schema⟩ := source
      obtain ⟨rfl, hname⟩ := Option.ite_none_right_eq_some.mp hname
      obtain rfl := Option.some.inj hname
      exact String.empty_append

/-- The name of a common table expression is spelled as it is written. -/
theorem spelled_readName (relation : Identity) (name : Option String) (position : Nat) :
    Token.spelled d aliasOf position (Cte.readName (.tokens d) relation name) =
      d.enclose (name.getD (aliasOf relation)) := by
  cases name with
  | some explicit => exact Token.spelled_name explicit position
  | none => exact String.append_empty

/-- The tokens at a place are spelled as its text, whatever stands in front of them. -/
theorem spelled_tokens (place : NamePlace) (position : Nat) :
    Token.spelled d aliasOf position (place.tokens d) = place.written d aliasOf := by
  cases place with
  | entry relation name => exact spelled_readName relation name position
  | reference relation name => exact spelled_readName relation name position
  | table source =>
    obtain ⟨relation, name, schema⟩ := source
    cases schema with
    | none => exact String.append_empty.trans String.empty_append.symm
    | some schema =>
      have hname : (Reading.tokens d).name name = [.name name] := rfl
      have hschema : (Reading.tokens d).name schema = [.name schema] := rfl
      simp only [tokens, Table.readName, written, hname, hschema, Token.spelled_append,
        Token.spelled_name, Token.spelled_readText]

/-- No value is bound where a relation is named. -/
theorem valueCount_readName (relation : Identity) (name : Option String) :
    Token.valueCount (Cte.readName (.tokens d) relation name) = 0 := by
  cases name <;> rfl

/-- No values are bound at a place. -/
theorem valueCount_tokens (place : NamePlace) : Token.valueCount (place.tokens d) = 0 := by
  cases place with
  | entry relation name => exact valueCount_readName relation name
  | reference relation name => exact valueCount_readName relation name
  | table source =>
    obtain ⟨relation, name, schema⟩ := source
    cases schema with
    | none => rfl
    | some schema =>
      rw [tokens, Table.readName, Token.valueCount_append, Token.valueCount_append,
        Token.valueCount_readText]
      rfl

end NamePlace

/-- A part of a text in which the names of relations are marked. -/
abbrev NameMark := Marked NamePlace

namespace NameMark

/-- The tokens of a mark. -/
abbrev tokens (d : Dialect) : NameMark → List Token := Marked.tokens (NamePlace.tokens d)

/-- The text of marks behind `position` values: at every marked place stands its text. -/
def text (d : Dialect) (aliasOf : Identity → String) : Nat → List NameMark → String
  | _, [] => ""
  | position, .token written :: rest =>
    Token.spelled d aliasOf position [written] ++
      text d aliasOf (position + Token.valueCount [written]) rest
  | position, .place held :: rest => held.written d aliasOf ++ text d aliasOf position rest

/-- The tokens of marks are spelled as the text of the marks. -/
theorem spelled_flatMap_tokens {d : Dialect} {aliasOf : Identity → String} (marks : List NameMark)
    (position : Nat) :
    Token.spelled d aliasOf position (marks.flatMap (tokens d)) =
      text d aliasOf position marks := by
  induction marks generalizing position with
  | nil => rfl
  | cons mark rest ih =>
    rw [List.flatMap_cons, Token.spelled_append, ih]
    cases mark with
    | token written => rfl
    | place held =>
      rw [tokens, Marked.tokens, held.spelled_tokens, held.valueCount_tokens, Nat.add_zero]
      rfl

end NameMark

/-! ### Outlines -/

open Marked

section Outlines

variable (d : Dialect)

/-- The outline of an entry of a WITH list. -/
def Cte.nameOutline : Cte → List NameMark
  | ⟨id, explicit, columns, _, query⟩ =>
    .place (.entry id explicit) ::
      other
        ((if columns.isEmpty then []
          else (Reading.tokens d).text " (" ++
            (Reading.tokens d).commaSeparated (columns.map (Reading.tokens d).name) ++
            (Reading.tokens d).text ")") ++
        (Reading.tokens d).text " AS " ++
          (Reading.tokens d).parenthesized (query.read (.tokens d)))

/-- The outline of a WITH list. -/
def Cte.listNameOutline (ctes : List Cte) : List NameMark :=
  Cte.readList (reading d) (ctes.any Cte.recursive) (ctes.map (Cte.nameOutline d))

/-- The outline of a source of rows. A derived table has no name but its alias. -/
def RowSource.nameOutline : RowSource → List NameMark
  | .table source => .place (.table source) :: other ((Reading.tokens d).tableAlias source.id)
  | .cte id explicit => .place (.reference id explicit) :: other ((Reading.tokens d).tableAlias id)
  | .derived id query =>
    other ((Reading.tokens d).parenthesized (query.read (.tokens d)) ++
      (Reading.tokens d).tableAlias id)
  | .join kind left right condition =>
    left.nameOutline ++ other ((Reading.tokens d).text (" " ++ kind.spelling ++ " ")) ++
      right.nameOutline ++
      other ((Reading.tokens d).clause " ON " (Expr.read? (.tokens d) true condition))

/-- The outline of a table that a statement changes, with its alias. -/
def Table.nameOutline (table : Table) : List NameMark :=
  .place (.table table) :: other ((Reading.tokens d).tableAlias table.id)

/-- The outline of a clause that lists sources of rows. -/
def RowSource.listNameOutline (keyword : String) (sources : List RowSource) : List NameMark :=
  (reading d).listClause keyword (sources.map (RowSource.nameOutline d))

/-- The outline of a SELECT. -/
def Select.nameOutline : Select → List NameMark
  | ⟨ctes, distinct, columns, sources, filter, grouping, having, ordering, limit, offset⟩ =>
    Cte.listNameOutline d ctes ++
      other ((Reading.tokens d).text (if distinct then "SELECT DISTINCT " else "SELECT ") ++
        (if columns.isEmpty then (Reading.tokens d).text "*"
          else (Reading.tokens d).commaSeparated (ResultItem.readEach (.tokens d) true columns))) ++
      RowSource.listNameOutline d " FROM " sources ++
      other ((Reading.tokens d).clause " WHERE " (Expr.read? (.tokens d) true filter)) ++
      other
        ((Reading.tokens d).listClause " GROUP BY " (Expr.readEach (.tokens d) true grouping)) ++
      other ((Reading.tokens d).clause " HAVING " (Expr.read? (.tokens d) true having)) ++
      other
        ((Reading.tokens d).listClause " ORDER BY "
          (OrderTerm.readEach (.tokens d) true ordering)) ++
      other ((Reading.tokens d).bounds limit offset)

/-- The outline of an UPDATE. -/
def Update.nameOutline : Update → List NameMark
  | ⟨ctes, table, columns, values, sources, filter, returning⟩ =>
    Cte.listNameOutline d ctes ++ other ((Reading.tokens d).text "UPDATE ") ++
      table.nameOutline d ++ other ((Reading.tokens d).text " SET ") ++
      other (values.read (.tokens d) columns) ++ RowSource.listNameOutline d " FROM " sources ++
      other ((Reading.tokens d).clause " WHERE " (Expr.read? (.tokens d) true filter)) ++
      other ((Reading.tokens d).listClause " RETURNING "
        (ResultItem.readEach (.tokens d) true returning))

/-- The outline of an INSERT, whose target may have no alias. -/
def Insert.nameOutline : Insert → List NameMark
  | ⟨ctes, table, columns, rows, conflict, returning⟩ =>
    Cte.listNameOutline d ctes ++ other ((Reading.tokens d).text "INSERT INTO ") ++
      .place (.table table) :: other ((Reading.tokens d).targetAlias table.id) ++
      other
        (if columns.isEmpty then []
          else (Reading.tokens d).text " (" ++
            (Reading.tokens d).commaSeparated (columns.map (Column.readBare (.tokens d))) ++
            (Reading.tokens d).text ")") ++
      other (rows.read (.tokens d)) ++ other (ConflictClause.read? (.tokens d) true conflict) ++
      other ((Reading.tokens d).listClause " RETURNING "
        (ResultItem.readEach (.tokens d) true returning))

/-- The outline of a DELETE. -/
def Delete.nameOutline : Delete → List NameMark
  | ⟨ctes, table, sources, filter, returning⟩ =>
    Cte.listNameOutline d ctes ++ other ((Reading.tokens d).text "DELETE FROM ") ++
      table.nameOutline d ++ RowSource.listNameOutline d " USING " sources ++
      other ((Reading.tokens d).clause " WHERE " (Expr.read? (.tokens d) true filter)) ++
      other ((Reading.tokens d).listClause " RETURNING "
        (ResultItem.readEach (.tokens d) true returning))

/-- The outline of a statement: the places at which it writes the names of relations. Those inside
of nested statements are left to the outlines of these. -/
def Statement.nameOutline : Statement → List NameMark
  | .select statement => statement.nameOutline d
  | .update statement => statement.nameOutline d
  | .insert statement => statement.nameOutline d
  | .delete statement => statement.nameOutline d

end Outlines

/-! ### Places -/

/-- The place of an entry of a WITH list. -/
def Cte.namePlace (cte : Cte) : NamePlace := .entry cte.id cte.name

/-- The places of a source of rows. -/
def RowSource.namePlaces : RowSource → List NamePlace
  | .table source => [.table source]
  | .cte id explicit => [.reference id explicit]
  | .derived _ _ => []
  | .join _ left right _ => left.namePlaces ++ right.namePlaces

namespace Statement

/-- The WITH list of a statement. -/
def ctes : Statement → List Cte
  | select statement => statement.ctes
  | update statement => statement.ctes
  | insert statement => statement.ctes
  | delete statement => statement.ctes

/-- The table that a statement changes. -/
def target : Statement → Option Table
  | select _ => none
  | update statement => statement.table
  | insert statement => statement.table
  | delete statement => statement.table

/-- What a statement lists as sources of rows. -/
def sources : Statement → List RowSource
  | select statement => statement.sources
  | update statement => statement.sources
  | insert _ => []
  | delete statement => statement.sources

/-- The places at which a statement itself writes the names of relations, in the order of the
text. -/
def namePlaces (statement : Statement) : List NamePlace :=
  statement.ctes.map Cte.namePlace ++ statement.target.toList.map .table ++
    statement.sources.flatMap RowSource.namePlaces

end Statement

/-! ### Outlines and texts -/

variable {d : Dialect}

/-- The outline of an entry has its text. -/
theorem Cte.flatMap_tokens_nameOutline (cte : Cte) :
    (cte.nameOutline d).flatMap (NameMark.tokens d) = cte.read (.tokens d) := by
  obtain ⟨id, explicit, columns, recursive, query⟩ := cte
  have hvisit : (Reading.tokens d).visit id = [] := rfl
  rw [nameOutline, flatMap_tokens_place, NamePlace.tokens, Cte.read, hvisit, List.nil_append]
  simp only [List.append_assoc]

/-- The outline of a WITH list has its text. -/
theorem Cte.flatMap_tokens_listNameOutline (ctes : List Cte) :
    (listNameOutline d ctes).flatMap (NameMark.tokens d) =
      Cte.readList (.tokens d) (ctes.any Cte.recursive) (Cte.readEach (.tokens d) ctes) := by
  have hentries : List.flatMap (NameMark.tokens d) ∘ nameOutline d = Cte.read (.tokens d) :=
    funext flatMap_tokens_nameOutline
  rw [Cte.readEach_eq_map, ← hentries, ← List.map_map, listNameOutline, readList, readList]
  simp only [List.isEmpty_map]
  split
  · rfl
  · rw [List.flatMap_append, List.flatMap_append, flatMap_tokens_text, flatMap_tokens_text,
      Reading.commaSeparated, flatMap_tokens_separated]
    rfl

/-- The outline of a source of rows has its text. -/
theorem RowSource.flatMap_tokens_nameOutline (source : RowSource) :
    (source.nameOutline d).flatMap (NameMark.tokens d) = source.read (.tokens d) true := by
  fun_induction nameOutline d source with
  | case1 source => exact flatMap_tokens_place _ _
  | case2 id explicit => exact flatMap_tokens_place _ _
  | case3 id query => exact flatMap_tokens_other _
  | case4 kind left right condition hleft hright =>
    simp only [List.flatMap_append, flatMap_tokens_other, hleft, hright]
    rfl

/-- The outline of a clause that lists sources of rows has its text. -/
theorem RowSource.flatMap_tokens_listNameOutline (keyword : String) (sources : List RowSource) :
    (listNameOutline d keyword sources).flatMap (NameMark.tokens d) =
      (Reading.tokens d).listClause keyword (RowSource.readEach (.tokens d) true sources) := by
  have hsources : List.flatMap (NameMark.tokens d) ∘ nameOutline d =
      RowSource.read (.tokens d) true := funext flatMap_tokens_nameOutline
  rw [listNameOutline, flatMap_tokens_listClause, List.map_map, hsources,
    RowSource.readEach_eq_map]

/-- The outline of a table that a statement changes has its text. -/
theorem Table.flatMap_tokens_nameOutline (table : Table) :
    (table.nameOutline d).flatMap (NameMark.tokens d) = table.read (.tokens d) :=
  flatMap_tokens_place _ _

/-- The outline of a SELECT has its text. -/
theorem Select.flatMap_tokens_nameOutline (statement : Select) :
    (statement.nameOutline d).flatMap (NameMark.tokens d) = statement.read (.tokens d) := by
  obtain ⟨ctes, distinct, columns, sources, filter, grouping, having, ordering, limit, offset⟩ :=
    statement
  simp only [nameOutline, List.flatMap_append, flatMap_tokens_other,
    Cte.flatMap_tokens_listNameOutline, RowSource.flatMap_tokens_listNameOutline]
  rfl

/-- The outline of an UPDATE has its text. -/
theorem Update.flatMap_tokens_nameOutline (statement : Update) :
    (statement.nameOutline d).flatMap (NameMark.tokens d) = statement.read (.tokens d) := by
  obtain ⟨ctes, table, columns, values, sources, filter, returning⟩ := statement
  simp only [nameOutline, read, List.flatMap_append, flatMap_tokens_other,
    Cte.flatMap_tokens_listNameOutline, RowSource.flatMap_tokens_listNameOutline,
    Table.flatMap_tokens_nameOutline, List.append_assoc]
  rfl

/-- The outline of an INSERT has its text. -/
theorem Insert.flatMap_tokens_nameOutline (statement : Insert) :
    (statement.nameOutline d).flatMap (NameMark.tokens d) = statement.read (.tokens d) := by
  obtain ⟨ctes, table, columns, rows, conflict, returning⟩ := statement
  simp only [nameOutline, read, List.flatMap_append, flatMap_tokens_other, flatMap_tokens_place,
    Cte.flatMap_tokens_listNameOutline, NamePlace.tokens, List.append_assoc]
  rfl

/-- The outline of a DELETE has its text. -/
theorem Delete.flatMap_tokens_nameOutline (statement : Delete) :
    (statement.nameOutline d).flatMap (NameMark.tokens d) = statement.read (.tokens d) := by
  obtain ⟨ctes, table, sources, filter, returning⟩ := statement
  simp only [nameOutline, read, List.flatMap_append, flatMap_tokens_other,
    Cte.flatMap_tokens_listNameOutline, RowSource.flatMap_tokens_listNameOutline,
    Table.flatMap_tokens_nameOutline, List.append_assoc]
  rfl

/-- The outline of a statement has its text. -/
theorem Statement.flatMap_tokens_nameOutline (statement : Statement) :
    (statement.nameOutline d).flatMap (NameMark.tokens d) = statement.read (.tokens d) := by
  cases statement with
  | select statement => exact statement.flatMap_tokens_nameOutline
  | update statement => exact statement.flatMap_tokens_nameOutline
  | insert statement => exact statement.flatMap_tokens_nameOutline
  | delete statement => exact statement.flatMap_tokens_nameOutline

/-! ### Outlines and places -/

/-- The outline of an entry marks its name. -/
theorem Cte.marked_nameOutline (cte : Cte) : marked (cte.nameOutline d) = [cte.namePlace] := by
  obtain ⟨id, explicit, columns, recursive, query⟩ := cte
  exact marked_place _ _

/-- The outline of a WITH list marks its entries. -/
theorem Cte.marked_listNameOutline (ctes : List Cte) :
    marked (listNameOutline d ctes) = ctes.map namePlace := by
  have hentries : (ctes.map (nameOutline d)).flatMap marked = ctes.map namePlace := by
    rw [List.flatMap_map, List.map_eq_flatMap]
    simp only [marked_nameOutline]
  rw [listNameOutline, readList, List.isEmpty_map]
  split
  · rename_i hnone
    rw [List.isEmpty_iff.mp hnone]
    rfl
  · rw [marked_append, marked_append, marked_text, marked_text, Reading.commaSeparated,
      marked_separated, hentries, List.nil_append, List.append_nil]

/-- The outline of a source of rows marks its places. -/
theorem RowSource.marked_nameOutline (source : RowSource) :
    marked (source.nameOutline d) = source.namePlaces := by
  fun_induction nameOutline d source with
  | case1 source => exact marked_place _ _
  | case2 id explicit => exact marked_place _ _
  | case3 id query => exact marked_other _
  | case4 kind left right condition hleft hright =>
    simp only [marked_append, marked_other, hleft, hright, List.append_nil, namePlaces]

/-- The outline of a clause that lists sources of rows marks their places. -/
theorem RowSource.marked_listNameOutline (keyword : String) (sources : List RowSource) :
    marked (listNameOutline d keyword sources) = sources.flatMap namePlaces := by
  rw [listNameOutline, marked_listClause, List.flatMap_map]
  simp only [marked_nameOutline]

/-- The marked places of a statement are those that it has. -/
theorem Statement.marked_nameOutline (statement : Statement) :
    marked (statement.nameOutline d) = statement.namePlaces := by
  cases statement with
  | select statement =>
    obtain ⟨ctes, distinct, columns, sources, filter, grouping, having, ordering, limit, offset⟩ :=
      statement
    simp only [nameOutline, Select.nameOutline, marked_append, marked_other,
      Cte.marked_listNameOutline, RowSource.marked_listNameOutline, namePlaces, Statement.ctes,
      target, Statement.sources, Option.toList, List.map_nil, List.append_nil]
  | update statement =>
    obtain ⟨ctes, table, columns, values, sources, filter, returning⟩ := statement
    simp only [nameOutline, Update.nameOutline, Table.nameOutline, marked_append, marked_other,
      marked_place, Cte.marked_listNameOutline, RowSource.marked_listNameOutline, List.append_nil]
    rfl
  | insert statement =>
    obtain ⟨ctes, table, columns, rows, conflict, returning⟩ := statement
    simp only [nameOutline, Insert.nameOutline, marked_append, marked_other, marked_place,
      Cte.marked_listNameOutline, namePlaces, Statement.ctes, target, Statement.sources,
      Option.toList, List.map_cons, List.map_nil, List.flatMap_nil, List.append_nil]
  | delete statement =>
    obtain ⟨ctes, table, sources, filter, returning⟩ := statement
    simp only [nameOutline, Delete.nameOutline, Table.nameOutline, marked_append, marked_other,
      marked_place, Cte.marked_listNameOutline, RowSource.marked_listNameOutline, List.append_nil]
    rfl

/-! ### Rendered texts -/

/-- The names of relations in a statement stand in a text where the tree has them. -/
structure Statement.NamesWritten (d : Dialect) (aliasOf : Identity → String) (sql : String)
    (statement : Statement) : Prop where
  /-- The text of the statement is a part of the whole, with the text of each place at the place. -/
  stands : ∃ before position behind,
    sql = before ++ NameMark.text d aliasOf position (statement.nameOutline d) ++ behind
  /-- The places are those that the tree has, one by one. -/
  marks : marked (statement.nameOutline d) = statement.namePlaces
  /-- A name that the WITH list defines, and the name of a table without a schema, is all that is
  written at its place. -/
  names : ∀ place ∈ statement.namePlaces, ∀ name,
    place.defined? aliasOf = some name ∨ place.tableName? = some name →
      place.written d aliasOf = d.enclose name

/-- In a rendered text the names of relations stand where the tree has them, in a statement at any
depth. -/
theorem Node.namesWritten_of_within {node : Node} {query : Query}
    (hrender : node.render d = .ok query) {statement : Statement}
    (hwithin : statement.read (.tokens d) <:+: node.tokens d) :
    statement.NamesWritten d (node.aliasOf d) query.sql := by
  refine ⟨?_, statement.marked_nameOutline, fun _ _ _ ↦ NamePlace.written_eq_enclose⟩
  obtain ⟨before, position, behind, hsql⟩ := Node.exists_sql_eq_of_within hrender hwithin
  refine ⟨before, position, behind, ?_⟩
  rw [hsql, ← statement.flatMap_tokens_nameOutline, NameMark.spelled_flatMap_tokens]

end BoundSql
