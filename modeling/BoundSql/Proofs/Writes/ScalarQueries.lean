import BoundSql.Proofs.Faults
import BoundSql.Proofs.Nesting.Standing
import BoundSql.Proofs.QueryTexts
import BoundSql.Tree.Builder

/-!
# Queries that supply one column

What an UPDATE or a DO UPDATE assigns to a single column may be a query in parentheses, and then the
query has to yield one column. The rule holds at every depth, for each of the ways in which an
UPDATE is given its values (`Node.scalar_queries`). It looks at the constructor of a value, so a
query that is the only operand of a connective passes, although it is written as a query in
parentheses. The values of the rows of an INSERT are not looked at.
-/

set_option autoImplicit false
set_option relaxedAutoImplicit false

namespace BoundSql

/-! ### Values for single columns -/

/-- The values that an UPDATE assigns to single columns. A query that is left with one column is the
value of this column. -/
def NewValues.scalarValues (columns : List Column) : NewValues → List Expr
  | .each values => values
  | .fromQuery source => if columns.length = 1 then [.subquery source] else []
  | .queryThenEach source rest =>
    (if columns.length - rest.length = 1 then [.subquery source] else []) ++ rest

/-- The values that a response to a conflict assigns to single columns. -/
def ConflictResponse.scalarValues : ConflictResponse → List Expr
  | .doNothing => []
  | .doUpdate assignments _ => assignments.map Assignment.value

/-- The values that a statement assigns to single columns in its SET or DO UPDATE SET clause. -/
def Statement.scalarValues : Statement → List Expr
  | .update statement => statement.values.scalarValues statement.columns
  | .insert statement =>
    statement.conflict.elim [] fun conflict ↦ conflict.response.scalarValues
  | .select _ | .delete _ => []

/-- The expression is written as a query in parentheses. -/
def Expr.WrittenAsQuery (d : Dialect) (expr : Expr) : Prop :=
  ∃ query : Statement,
    expr.read (.tokens d) true = (Reading.tokens d).parenthesized (query.read (.tokens d))

variable {d : Dialect}

/-! ### The rule for one statement -/

theorem NewValues.fits_of_mem_scalarValues {values : NewValues} {columns : List Column}
    (hfit : values.FitColumns columns.length) (hformed : values.WellFormed d) {value : Expr}
    (hvalue : value ∈ values.scalarValues columns) : value.FitsColumn ∧ value.WellFormed d := by
  cases values with
  | each values =>
    have hscalars : Expr.ScalarsWellFormed d values := hformed
    exact hscalars.of_mem hvalue
  | fromQuery source =>
    rw [scalarValues] at hvalue
    split at hvalue
    · rename_i hone
      obtain rfl := List.mem_singleton.mp hvalue
      have hsource : source.FitsColumns columns.length := hfit
      rw [hone] at hsource
      exact ⟨hsource, hformed⟩
    · cases hvalue
  | queryThenEach source rest =>
    obtain ⟨hquery, hrest⟩ : source.WellFormed d ∧ Expr.ScalarsWellFormed d rest := hformed
    rcases List.mem_append.mp hvalue with hvalue | hvalue
    · split at hvalue
      · rename_i hone
        obtain rfl := List.mem_singleton.mp hvalue
        have hsource : source.FitsColumns (columns.length - rest.length) := hfit.2
        rw [hone] at hsource
        exact ⟨hsource, hquery⟩
      · cases hvalue
    · exact hrest.of_mem hvalue

/-- What a well-formed statement assigns to a single column fits it, as far as its constructor
tells. -/
theorem Statement.fits_of_mem_scalarValues {statement : Statement}
    (hformed : statement.WellFormed d) {value : Expr} (hvalue : value ∈ statement.scalarValues) :
    value.FitsColumn ∧ value.WellFormed d := by
  cases statement with
  | select statement => cases hvalue
  | delete statement => cases hvalue
  | update statement =>
    obtain ⟨ctes, table, columns, values, sources, filter, returning⟩ := statement
    obtain ⟨⟨-, -, hfit⟩, -, -, -, hvalues, -⟩ := hformed
    exact NewValues.fits_of_mem_scalarValues hfit hvalues hvalue
  | insert statement =>
    obtain ⟨ctes, table, columns, rows, conflict, returning⟩ := statement
    obtain ⟨-, -, -, -, -, hconflict, -⟩ := hformed
    cases conflict with
    | none => cases hvalue
    | some present =>
      obtain ⟨target, response⟩ := present
      cases response with
      | doNothing => cases hvalue
      | doUpdate assignments filter =>
        obtain ⟨⟨assigned, given⟩, hassignment, rfl⟩ := List.mem_map.mp hvalue
        have hassignments : Assignment.AllWellFormed d assignments := hconflict.2.1
        exact (hassignments.of_mem hassignment).2

/-- A fitting value that is written as a query in parentheses is a query of one column, as far as
its width is known, or a connective with a single operand. -/
theorem Expr.FitsColumn.of_writtenAsQuery {value : Expr} (hfits : value.FitsColumn)
    (hformed : value.WellFormed d) (hwritten : value.WrittenAsQuery d) :
    ∃ source, value.reduced = .subquery source ∧
      value.read (.tokens d) true = (Reading.tokens d).parenthesized (source.read (.tokens d)) ∧
      (source.FitsColumns 1 ∨ ∃ connective operand, value = .connected connective [operand]) := by
  obtain ⟨query, hread⟩ := hwritten
  obtain ⟨source, hreduced⟩ := Expr.exists_reduced_eq_subquery value hformed hread
  refine ⟨source, hreduced, Expr.read_of_reduced_eq_subquery _ true value hreduced, ?_⟩
  cases value with
  | subquery direct =>
    obtain rfl := Expr.subquery.inj hreduced
    exact .inl hfits
  | connected connective operands =>
    match operands, hreduced with
    | [only], _ => exact .inr ⟨connective, only, rfl⟩
  | column reference =>
    rw [Expr.reduced, Column.reduced] at hreduced
    split at hreduced <;> cases hreduced
  | _ => cases hreduced

/-! ### The rule at every depth -/

/-- Where a node is rendered, every value that one of its statements assigns to a single column and
that is written as a query in parentheses comes from a query of one column, as far as its width is
known, unless the query hides in a connective with a single operand. A query of another width that
stands there itself is refused, and nothing but the width is at fault if all else is in order. -/
theorem Node.scalar_queries (node : Node) :
    (∀ query, node.render d = .ok query →
      ∀ inner ∈ node.statements, ∀ value ∈ inner.scalarValues, value.WrittenAsQuery d →
        ∃ source, value.reduced = .subquery source ∧
          value.read (.tokens d) true =
            (Reading.tokens d).parenthesized (source.read (.tokens d)) ∧
          (source.FitsColumns 1 ∨ ∃ connective operand, value = .connected connective [operand])) ∧
    ∀ inner ∈ node.statements, ∀ source, .subquery source ∈ inner.scalarValues →
      ¬ source.FitsColumns 1 →
        (∀ query, node.render d ≠ .ok query) ∧
        (d.quote.isLower = false →
          ∃ error, node.render d = .error error ∧
            ((node.layout d).faults d).head? = some error ∧
            ((∀ fault ∈ (node.layout d).faults d, ∃ width, fault = .subqueryWidth width) →
              ∃ width, error = .subqueryWidth width)) := by
  have hfits : node.WellFormed d → ∀ inner ∈ node.statements, ∀ value ∈ inner.scalarValues,
      value.FitsColumn ∧ value.WellFormed d := by
    intro hformed inner hinner value hvalue
    have hstands := node.stands_of_mem_statements (r := Reading.tokens d) rfl hinner hformed
    exact Statement.fits_of_mem_scalarValues hstands.formed hvalue
  refine ⟨fun query hrender inner hinner value hvalue hwritten ↦ ?_,
    fun inner hinner source hsource hwide ↦ ?_⟩
  · have hformed := (accepted_layout_iff node).mp (accepted_of_render hrender)
    obtain ⟨hvalue, hvalueFormed⟩ := hfits hformed inner hinner value hvalue
    exact hvalue.of_writtenAsQuery hvalueFormed hwritten
  · have hbroken : ¬ node.WellFormed d := fun hformed ↦
      hwide (hfits hformed inner hinner _ hsource).1
    refine ⟨fun query hrender ↦ ?_, fun hquote ↦ ?_⟩
    · exact hbroken ((accepted_layout_iff node).mp (accepted_of_render hrender))
    · obtain ⟨error, hrender, hfirst⟩ := exists_render_eq_error hquote hbroken
      exact ⟨error, hrender, hfirst, fun hwidths ↦ hwidths error (List.mem_of_mem_head? hfirst)⟩

/-! ### Queries of one column and of two -/

/-- What is charged for an article, from the named columns of a table of prices. -/
def charges (columns : List String) : Statement :=
  let prices : Table := ⟨⟨1⟩, "prices", none⟩
  .select ((Select.blank.selecting
    (columns.map fun name ↦ .plain (.column (prices.column name)))).fromSource (.table prices))

/-- An UPDATE of a price from a query of these columns. -/
def charging (columns : List String) : Statement :=
  let goods : Table := ⟨⟨0⟩, "goods", none⟩
  .update ((Update.blank goods).assign (goods.column "price") (.subquery (charges columns)))

/-- The query of `charging` for one column. -/
def charged : Query where
  sql :=
    "UPDATE \"goods\" AS \"b\" SET \"price\" = " ++
    "(SELECT \"a\".\"base\" FROM \"prices\" AS \"a\")"
  params := []

/-- A query of one column is assigned, and one of two columns is refused for its width. -/
theorem scalar_queries_charging :
    (Node.statement (charging ["base"])).render .postgres = .ok charged ∧
      (∃ source, (Expr.subquery (charges ["base"])).reduced = .subquery source ∧
        source.FitsColumns 1) ∧
      ∃ width, (Node.statement (charging ["base", "tax"])).render .postgres =
        .error (.subqueryWidth width) := by
  have hrender : (Node.statement (charging ["base"])).render .postgres = .ok charged := by
    decide +kernel
  refine ⟨hrender, ?_, ?_⟩
  · obtain ⟨hfitting, -⟩ := Node.scalar_queries (d := .postgres) (.statement (charging ["base"]))
    obtain ⟨source, hreduced, -, hfits | ⟨_, _, hconnected⟩⟩ :=
      hfitting charged hrender _ List.mem_cons_self _ List.mem_cons_self ⟨_, rfl⟩
    · exact ⟨source, hreduced, hfits⟩
    · cases hconnected
  · obtain ⟨-, hrefused⟩ :=
      Node.scalar_queries (d := .postgres) (.statement (charging ["base", "tax"]))
    have hwide : ¬ (charges ["base", "tax"]).FitsColumns 1 := fun hfits ↦
      absurd (hfits 2 rfl) (by decide)
    have hwidths : ∀ fault ∈ ((Node.statement (charging ["base", "tax"])).layout
        .postgres).faults .postgres, ∃ width, fault = .subqueryWidth width := by
      have hfaults : ((Node.statement (charging ["base", "tax"])).layout .postgres).faults
          .postgres = [.subqueryWidth 2] := by decide +kernel
      rw [hfaults]
      intro fault hfault
      exact ⟨2, List.mem_singleton.mp hfault⟩
    obtain ⟨-, hfirst⟩ := hrefused _ List.mem_cons_self _ List.mem_cons_self hwide
    obtain ⟨error, hrender, -, hmismatch⟩ := hfirst (by decide)
    obtain ⟨width, rfl⟩ := hmismatch hwidths
    exact ⟨width, hrender⟩

/-- A new row whose price comes from a query of two columns. -/
def overcharging : Statement :=
  let goods : Table := ⟨⟨0⟩, "goods", none⟩
  .insert (((Insert.blank goods).naming [goods.column "price"]).row
    [.subquery (charges ["base", "tax"])])

/-- The query of `overcharging`. -/
def overcharged : Query where
  sql :=
    "INSERT INTO \"goods\" AS \"b\" (\"price\") VALUES " ++
    "((SELECT \"a\".\"base\", \"a\".\"tax\" FROM \"prices\" AS \"a\"))"
  params := []

/-- The query stands in the cell of one column, in parentheses, and yields two. -/
theorem overcharging_fills_cell :
    (Node.statement overcharging).render .postgres = .ok overcharged ∧
      (Expr.subquery (charges ["base", "tax"])).WrittenAsQuery .postgres ∧
      (charges ["base", "tax"]).width = some 2 := by
  exact ⟨by decide +kernel, ⟨_, rfl⟩, rfl⟩

end BoundSql
