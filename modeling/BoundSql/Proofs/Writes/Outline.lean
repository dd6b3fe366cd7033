import BoundSql.Proofs.Reading.Marked
import BoundSql.Proofs.Writes.SetClause

/-!
# Columns that are written to, in the text

A column is written to where a SET or DO UPDATE SET clause assigns to it, where an INSERT names it,
and where an ON CONFLICT clause has it as its target. The outline of a statement marks these places
in its text (`Statement.writeOutline`): what the marks stand for, put together, is the text of the
statement (`Statement.flatMap_tokens_writeOutline`), and the marked columns are the columns that the
statement writes to, one by one (`Statement.marked_writeOutline`).
-/

set_option autoImplicit false
set_option relaxedAutoImplicit false

namespace BoundSql

/-! ### Marks -/

/-- A part of a text in which the columns that are written to are marked. -/
abbrev WriteMark := Marked Column

namespace WriteMark

/-- A column that is written to. -/
@[match_pattern]
abbrev column (assigned : Column) : WriteMark := .place assigned

/-- The tokens of a mark. -/
abbrev tokens (d : Dialect) : WriteMark → List Token := Marked.tokens (Column.readBare (.tokens d))

/-- The marks of a list of columns, with commas between them. -/
def columns (d : Dialect) (assigned : List Column) : List WriteMark :=
  (Marked.reading d).commaSeparated (assigned.map fun one ↦ [column one])

variable {d : Dialect}

/-- A list of columns is written with commas between their names. -/
theorem flatMap_tokens_columns (assigned : List Column) :
    (columns d assigned).flatMap (tokens d) =
      (Reading.tokens d).commaSeparated (assigned.map (Column.readBare (.tokens d))) := by
  have hone : List.flatMap (tokens d) ∘ (fun one ↦ [column one]) = Column.readBare (.tokens d) := by
    funext one
    exact List.append_nil _
  rw [columns, Reading.commaSeparated, Marked.flatMap_tokens_separated, List.map_map, hone]
  rfl

/-- A list of columns marks these columns. -/
theorem marked_columns (assigned : List Column) :
    Marked.marked (columns d assigned) = assigned := by
  rw [columns, Reading.commaSeparated, Marked.marked_separated, List.flatMap_map]
  exact List.flatMap_singleton' assigned

end WriteMark

/-! ### Outlines -/

open Marked WriteMark

section Outlines

variable (d : Dialect)

/-- The outline of an assignment. -/
def SetEntry.outline : SetEntry → List WriteMark
  | value assigned given =>
    .column assigned :: other ((Reading.tokens d).text " = " ++ given.read (.tokens d) true)
  | query assigned source =>
    (if assigned.length = 1 then columns d assigned
      else (reading d).parenthesized (columns d assigned)) ++
    other ((Reading.tokens d).text " = " ++
      (Reading.tokens d).parenthesized (source.read (.tokens d)))

/-- The outline of an assignment to one column, inside a statement or alone. -/
def Assignment.outline (inside : Bool) (assignment : Assignment) : List WriteMark :=
  .column assignment.column ::
    other ((Reading.tokens d).text " = " ++ assignment.value.read (.tokens d) inside)

/-- The outline of what is done on a conflict. -/
def ConflictResponse.outline (inside : Bool) : ConflictResponse → List WriteMark
  | .doNothing => other ((Reading.tokens d).text " DO NOTHING")
  | .doUpdate assignments filter =>
    (reading d).listClause " DO UPDATE SET " (assignments.map (Assignment.outline d inside)) ++
      other ((Reading.tokens d).clause " WHERE " (Expr.read? (.tokens d) inside filter))

/-- The outline of a list of columns in parentheses, which is left out if it is empty. -/
def WriteMark.columnList (assigned : List Column) : List WriteMark :=
  if assigned.isEmpty then []
  else other ((Reading.tokens d).text " (") ++ columns d assigned ++
    other ((Reading.tokens d).text ")")

/-- The outline of an ON CONFLICT clause, inside a statement or alone. -/
def ConflictClause.outline (inside : Bool) (conflict : ConflictClause) : List WriteMark :=
  other ((Reading.tokens d).text " ON CONFLICT") ++ columnList d conflict.target ++
    conflict.response.outline d inside

/-- The outline of a statement: the places at which it names a column that it writes to. -/
def Statement.writeOutline : Statement → List WriteMark
  | .select statement => other (statement.read (.tokens d))
  | .update statement =>
    other (statement.readOpening (.tokens d)) ++
      (reading d).commaSeparated (statement.setEntries.map (SetEntry.outline d)) ++
      other (statement.readClauses (.tokens d))
  | .insert ⟨ctes, table, assigned, rows, conflict, returning⟩ =>
    other (Cte.readList (.tokens d) (ctes.any Cte.recursive) (Cte.readEach (.tokens d) ctes) ++
        ((Reading.tokens d).text "INSERT INTO " ++ table.readName (.tokens d) ++
          (Reading.tokens d).targetAlias table.id)) ++
      columnList d assigned ++ other (rows.read (.tokens d)) ++
      conflict.elim [] (ConflictClause.outline d true) ++
      other ((Reading.tokens d).listClause " RETURNING "
        (ResultItem.readEach (.tokens d) true returning))
  | .delete statement => other (statement.read (.tokens d))

end Outlines

/-- The columns that a response to a conflict assigns to. -/
def ConflictResponse.writtenColumns : ConflictResponse → List Column
  | .doNothing => []
  | .doUpdate assignments _ => assignments.map Assignment.column

/-- The columns that a statement writes to: those that it assigns to, those that it names for its
rows, and those of its ON CONFLICT clause. -/
def Statement.writtenColumns : Statement → List Column
  | .update statement => statement.columns
  | .insert statement =>
    statement.columns ++
      statement.conflict.elim [] fun conflict ↦ conflict.target ++ conflict.response.writtenColumns
  | .select _ | .delete _ => []

/-! ### Outlines and texts -/

variable {d : Dialect}

/-- Without its marks an entry of a SET list is written as it is read. -/
theorem SetEntry.flatMap_tokens_outline (entry : SetEntry) :
    (entry.outline d).flatMap (WriteMark.tokens d) = entry.read (.tokens d) := by
  cases entry with
  | value assigned given =>
    rw [outline, List.flatMap_cons, flatMap_tokens_other, SetEntry.read, List.append_assoc]
    rfl
  | query assigned source =>
    rw [outline, List.flatMap_append, flatMap_tokens_other, SetEntry.read,
      Assignment.readQuery, List.append_assoc]
    congr 1
    split
    · exact flatMap_tokens_columns assigned
    · simp only [Reading.parenthesized, List.flatMap_append, flatMap_tokens_text,
        flatMap_tokens_columns]

/-- Without its marks an assignment is written as it is read. -/
theorem Assignment.flatMap_tokens_outline (inside : Bool) (assignment : Assignment) :
    (assignment.outline d inside).flatMap (WriteMark.tokens d) =
      assignment.read (.tokens d) inside := by
  obtain ⟨assigned, given⟩ := assignment
  rw [outline, List.flatMap_cons, flatMap_tokens_other, Assignment.read, List.append_assoc]
  rfl

/-- Without its marks the response to a conflict is written as it is read. -/
theorem ConflictResponse.flatMap_tokens_outline (inside : Bool) (response : ConflictResponse) :
    (response.outline d inside).flatMap (WriteMark.tokens d) =
      response.read (.tokens d) inside := by
  cases response with
  | doNothing => exact flatMap_tokens_other _
  | doUpdate assignments filter =>
    have hassignments : List.flatMap (WriteMark.tokens d) ∘ Assignment.outline d inside =
        Assignment.read (.tokens d) inside :=
      funext (Assignment.flatMap_tokens_outline inside)
    rw [outline, List.flatMap_append, flatMap_tokens_other, flatMap_tokens_listClause, List.map_map,
      hassignments, ConflictResponse.read, Assignment.readEach_eq_map]

/-- Without its marks a list of columns is written in parentheses, or not at all. -/
theorem WriteMark.flatMap_tokens_columnList (assigned : List Column) :
    (columnList d assigned).flatMap (WriteMark.tokens d) =
      if assigned.isEmpty then []
      else (Reading.tokens d).text " (" ++
        (Reading.tokens d).commaSeparated (assigned.map (Column.readBare (.tokens d))) ++
        (Reading.tokens d).text ")" := by
  unfold columnList
  split
  · rfl
  · rw [List.flatMap_append, List.flatMap_append, flatMap_tokens_other, flatMap_tokens_other,
      flatMap_tokens_columns]

/-- Without its marks an ON CONFLICT clause is written as it is read. -/
theorem ConflictClause.flatMap_tokens_outline (inside : Bool) (conflict : ConflictClause) :
    (conflict.outline d inside).flatMap (WriteMark.tokens d) =
      conflict.read (.tokens d) inside := by
  obtain ⟨target, response⟩ := conflict
  rw [outline, List.flatMap_append, List.flatMap_append, flatMap_tokens_other,
    flatMap_tokens_columnList, ConflictResponse.flatMap_tokens_outline]
  rfl

/-- The outline of a well-formed statement has its text. -/
theorem Statement.flatMap_tokens_writeOutline {statement : Statement}
    (hformed : statement.WellFormed d) :
    (statement.writeOutline d).flatMap (WriteMark.tokens d) = statement.read (.tokens d) := by
  cases statement with
  | select statement => exact flatMap_tokens_other _
  | delete statement => exact flatMap_tokens_other _
  | update statement =>
    have hformed : statement.WellFormed d := hformed
    have hentries : List.flatMap (WriteMark.tokens d) ∘ SetEntry.outline d =
        SetEntry.read (.tokens d) := funext SetEntry.flatMap_tokens_outline
    rw [writeOutline, List.flatMap_append, List.flatMap_append, flatMap_tokens_other,
      flatMap_tokens_other, Reading.commaSeparated, flatMap_tokens_separated, List.map_map,
      hentries]
    exact (Update.read_eq_setEntries rfl hformed.fitColumns).symm
  | insert statement =>
    obtain ⟨ctes, table, assigned, rows, conflict, returning⟩ := statement
    have hconflict : (conflict.elim [] (ConflictClause.outline d true)).flatMap
        (WriteMark.tokens d) = ConflictClause.read? (.tokens d) true conflict := by
      cases conflict with
      | none => rfl
      | some present => exact ConflictClause.flatMap_tokens_outline true present
    simp only [writeOutline, List.flatMap_append, flatMap_tokens_other, hconflict,
      flatMap_tokens_columnList]
    rfl

/-! ### Outlines and written columns -/

/-- Each of the columns in a list is marked, in order. -/
theorem WriteMark.marked_columnList (assigned : List Column) :
    marked (columnList d assigned) = assigned := by
  unfold columnList
  split
  · rename_i hnone
    exact (List.isEmpty_iff.mp hnone).symm
  · rw [marked_append, marked_append, marked_other, marked_other, marked_columns, List.append_nil]
    rfl

/-- The columns of an assignment. -/
def SetEntry.columns : SetEntry → List Column
  | value assigned _ => [assigned]
  | query assigned _ => assigned

/-- An entry of a SET list marks the columns that it assigns to. -/
theorem SetEntry.marked_outline (entry : SetEntry) : marked (entry.outline d) = entry.columns := by
  cases entry with
  | value assigned given => exact congrArg (assigned :: ·) (marked_other _)
  | query assigned source =>
    rw [outline, marked_append, marked_other, List.append_nil]
    split
    · exact marked_columns assigned
    · rw [Reading.parenthesized, marked_append, marked_append, marked_text, marked_text,
        marked_columns, List.append_nil]
      rfl

/-- As many values as columns leave no column out. -/
theorem SetEntry.flatMap_columns_zipWith {assigned : List Column} {values : List Expr}
    (hlength : values.length = assigned.length) :
    (List.zipWith SetEntry.value assigned values).flatMap columns = assigned := by
  induction assigned generalizing values with
  | nil => rfl
  | cons first assigned ih =>
    obtain ⟨value, later, rfl⟩ := List.exists_cons_of_length_eq_add_one hlength
    exact congrArg (first :: ·) (ih (Nat.succ_inj.mp hlength))

/-- Where columns and values fit each other, every column has its assignment. -/
theorem NewValues.flatMap_columns_setEntries {assigned : List Column} {values : NewValues}
    (hfit : values.FitColumns assigned.length) :
    (values.setEntries assigned).flatMap SetEntry.columns = assigned := by
  cases values with
  | each values => exact SetEntry.flatMap_columns_zipWith hfit
  | fromQuery source => exact List.append_nil assigned
  | queryThenEach source rest =>
    rw [setEntries, List.flatMap_cons,
      SetEntry.flatMap_columns_zipWith (length_drop_of_fitColumns hfit).symm]
    exact List.take_append_drop _ assigned

/-- An assignment marks its column. -/
theorem Assignment.marked_outline (inside : Bool) (assignment : Assignment) :
    marked (assignment.outline d inside) = [assignment.column] :=
  congrArg (assignment.column :: ·) (marked_other _)

/-- An ON CONFLICT clause marks its target, and then the columns that it assigns to. -/
theorem ConflictClause.marked_outline (inside : Bool) (conflict : ConflictClause) :
    marked (conflict.outline d inside) =
      conflict.target ++ conflict.response.writtenColumns := by
  obtain ⟨target, response⟩ := conflict
  rw [outline, marked_append, marked_append, marked_other, marked_columnList, List.nil_append]
  congr 1
  cases response with
  | doNothing => exact marked_other _
  | doUpdate assignments filter =>
    rw [ConflictResponse.outline, marked_append, marked_other, List.append_nil, marked_listClause,
      List.flatMap_map, ConflictResponse.writtenColumns]
    simp only [Assignment.marked_outline]
    exact List.map_eq_flatMap.symm

/-- The columns that are marked in a well-formed statement are those that it writes to. -/
theorem Statement.marked_writeOutline {statement : Statement} (hformed : statement.WellFormed d) :
    marked (statement.writeOutline d) = statement.writtenColumns := by
  cases statement with
  | select statement => exact marked_other _
  | delete statement => exact marked_other _
  | update statement =>
    have hformed : statement.WellFormed d := hformed
    rw [writeOutline, marked_append, marked_append, marked_other, marked_other,
      Reading.commaSeparated, marked_separated, List.flatMap_map, List.append_nil,
      List.nil_append]
    simp only [SetEntry.marked_outline]
    exact NewValues.flatMap_columns_setEntries hformed.fitColumns
  | insert statement =>
    obtain ⟨ctes, table, assigned, rows, conflict, returning⟩ := statement
    have hconflict : marked (conflict.elim [] (ConflictClause.outline d true)) =
        conflict.elim [] fun conflict ↦
          conflict.target ++ conflict.response.writtenColumns := by
      cases conflict with
      | none => rfl
      | some present => exact ConflictClause.marked_outline true present
    simp only [writeOutline, marked_append, marked_other, marked_columnList, hconflict,
      List.append_nil, List.nil_append, writtenColumns]

end BoundSql
