import BoundSql.Proofs.ExactAcceptance

/-!
# The assignments of an UPDATE

An UPDATE keeps its columns and its values in two lists. What its SET clause says is a third list,
`Update.setEntries`: a value beside the column that it is assigned to, or a query beside the columns
that it supplies. Columns and values fit each other in every UPDATE that is rendered, so the text
between SET and the clauses behind it shows these entries one by one, and nothing else
(`Update.eq_shown`).
-/

set_option autoImplicit false
set_option relaxedAutoImplicit false

namespace BoundSql

/-- An assignment of a SET clause. -/
inductive SetEntry where
  /-- One value for one column. -/
  | value (assigned : Column) (given : Expr)
  /-- One query for all of the columns. -/
  | query (assigned : List Column) (source : Statement)

/-- The assignments that the columns and the values of an UPDATE make up. -/
def NewValues.setEntries (columns : List Column) : NewValues → List SetEntry
  | .each values => List.zipWith .value columns values
  | .fromQuery source => [.query columns source]
  | .queryThenEach source rest =>
    .query (columns.take (columns.length - rest.length)) source ::
      List.zipWith .value (columns.drop (columns.length - rest.length)) rest

/-- The values behind a query have as many columns behind those of the query. -/
theorem NewValues.length_drop_of_fitColumns {columns : List Column} {source : Statement}
    {rest : List Expr} (hfit : (queryThenEach source rest).FitColumns columns.length) :
    (columns.drop (columns.length - rest.length)).length = rest.length := by
  have hfewer : rest.length < columns.length := hfit.1
  rw [List.length_drop]
  omega

/-- The assignments of an UPDATE in the order of the text. -/
def Update.setEntries (update : Update) : List SetEntry :=
  update.values.setEntries update.columns

section Reading

variable {α : Type} (r : Reading α)

/-- What is taken from an assignment. -/
def SetEntry.read : SetEntry → List α
  | value assigned given => assigned.readBare r ++ r.text " = " ++ given.read r true
  | query assigned source => Assignment.readQuery r assigned (source.read r)

/-- What is taken from an UPDATE up to its assignments. -/
def Update.readOpening (update : Update) : List α :=
  Cte.readList r (update.ctes.any Cte.recursive) (Cte.readEach r update.ctes) ++
    (r.text "UPDATE " ++ update.table.read r ++ r.text " SET ")

/-- What is taken from the clauses of an UPDATE behind its assignments. -/
def Update.readClauses (update : Update) : List α :=
  r.listClause " FROM " (RowSource.readEach r true update.sources) ++
    r.clause " WHERE " (Expr.read? r true update.filter) ++
    r.listClause " RETURNING " (ResultItem.readEach r true update.returning)

variable {r}

/-- As many values as columns: the pairs are the assignments. -/
theorem Assignment.readPairs_eq_map_read {columns : List Column} {values : List Expr}
    (hlength : values.length = columns.length) :
    Assignment.readPairs r columns (Expr.readEach r true values) =
      (List.zipWith SetEntry.value columns values).map (SetEntry.read r) := by
  induction columns generalizing values with
  | nil =>
    obtain rfl := List.eq_nil_of_length_eq_zero hlength
    rfl
  | cons assigned columns ih =>
    cases values with
    | nil => simp at hlength
    | cons first rest =>
      have hrest := ih (Nat.succ_inj.mp hlength)
      rw [Expr.readEach, Assignment.readPairs, hrest]
      rfl

/-- Where columns and values fit each other, they are read assignment by assignment. -/
theorem NewValues.read_eq_setEntries {columns : List Column} {values : NewValues}
    (hfit : values.FitColumns columns.length) :
    values.read r columns =
      r.commaSeparated ((values.setEntries columns).map (SetEntry.read r)) := by
  cases values with
  | each values => rw [NewValues.read, setEntries, Assignment.readPairs_eq_map_read hfit]
  | fromQuery source => rfl
  | queryThenEach source rest =>
    rw [NewValues.read, setEntries,
      Assignment.readPairs_eq_map_read (length_drop_of_fitColumns hfit).symm]
    rfl

/-- In the order of the text, the assignments of an UPDATE stand between its target and its other
clauses. -/
theorem Update.read_eq_setEntries (horder : r.order = .writing) {update : Update}
    (hfit : update.values.FitColumns update.columns.length) :
    update.read r =
      update.readOpening r ++ r.commaSeparated (update.setEntries.map (SetEntry.read r)) ++
        update.readClauses r := by
  obtain ⟨ctes, table, columns, values, sources, filter, returning⟩ := update
  simp only [Update.read, horder, NewValues.read_eq_setEntries hfit, readOpening, readClauses,
    setEntries, List.append_assoc]

end Reading

namespace Update

variable {d : Dialect} {update : Update} {query : Query}

/-- A well-formed UPDATE has as many values as its columns take. -/
theorem WellFormed.fitColumns (h : update.WellFormed d) :
    update.values.FitColumns update.columns.length := by
  obtain ⟨ctes, table, columns, values, sources, filter, returning⟩ := update
  exact h.1.2.2

/-- What is rendered has as many values as its columns take. -/
theorem fitColumns_of_render (hrender : (Node.statement (.update update)).render d = .ok query) :
    update.values.FitColumns update.columns.length := by
  have hformed : update.WellFormed d :=
    (Node.accepted_layout_iff _).mp (Node.accepted_of_render hrender)
  exact hformed.fitColumns

/-- The query that an UPDATE gives if its SET clause has these entries. -/
def shown (d : Dialect) (update : Update) (entries : List SetEntry) : Query :=
  let parts := (update.readOpening (.tokens d) ++
      (Reading.tokens d).commaSeparated (entries.map (SetEntry.read (.tokens d))) ++
      update.readClauses (.tokens d)).map
    (Token.part d ((Node.statement (.update update)).aliasOf d))
  ⟨Part.spell d.paramStyle 0 parts, Part.values parts⟩

/-- Text and parameters of an UPDATE are those of its assignments, one by one. -/
theorem eq_shown (hrender : (Node.statement (.update update)).render d = .ok query) :
    query = update.shown d update.setEntries := by
  have hread : (Node.statement (.update update)).tokens d = update.read (.tokens d) := rfl
  rw [Node.render_eq_twoPass hrender, Node.twoPass, Node.parts, hread,
    read_eq_setEntries rfl (fitColumns_of_render hrender)]
  rfl

end Update

end BoundSql
