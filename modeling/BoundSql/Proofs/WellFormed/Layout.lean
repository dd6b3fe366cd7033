import BoundSql.Proofs.Acceptance
import BoundSql.Proofs.WellFormed.Tree
import Mathlib.Tactic.Tauto

/-!
# A layout is accepted exactly if its tree is well formed

The checks that yield an error and the conditions of a well-formed tree say the same
(`Update.error?_eq_none_iff`, `Insert.error?_eq_none_iff` and the lemmas before them), and so a
dialect accepts the layout of a node exactly if the node is well formed
(`Node.accepted_layout_iff`). The values of an UPDATE are the one place where a condition on the
whole statement is needed: columns and values are written in pairs, of which none is lost if there
are as many of the one as of the other.
-/

set_option autoImplicit false
set_option relaxedAutoImplicit false

namespace BoundSql

open Layout

variable {d : Dialect}

/-! ### Names -/

/-- A name is without fault exactly if the dialect can quote it. -/
theorem Dialect.nameFault?_eq_none_iff {name : String} :
    d.nameFault? name = none ↔ d.Quotable name := by
  have hstyle : d.paramStyle.doublesPercent = true ↔ d.paramStyle = .format := by
    cases d.paramStyle <;> decide
  unfold nameFault?
  constructor
  · intro h
    refine ⟨fun hempty ↦ ?_, fun hquote ↦ ?_, fun hnul ↦ ?_, fun hformat hpercent ↦ ?_⟩
    · simp [hempty] at h
    · simp only [if_pos hquote] at h
      split at h <;> cases h
    · simp only [if_pos hnul] at h
      repeat' split at h
      all_goals cases h
    · simp only [if_pos (And.intro hpercent (hstyle.mpr hformat))] at h
      repeat' split at h
      all_goals cases h
  · rintro ⟨hempty, hquote, hnul, hpercent⟩
    have hpercent' : ¬ ('%' ∈ name.toList ∧ d.paramStyle.doublesPercent = true) :=
      fun h ↦ hpercent (hstyle.mp h.2) h.1
    simp [hempty, hquote, hnul, hpercent']

theorem Dialect.nameError?_eq_none_iff_quotable {name : String} :
    d.nameError? name = none ↔ d.Quotable name :=
  (d.nameError?_eq_none_iff name).trans Dialect.nameFault?_eq_none_iff

/-- A name is accepted exactly if the dialect can quote it. -/
@[simp]
theorem Dialect.accepted_identifier {name : String} :
    (identifier name).Accepted d ↔ d.Quotable name := Dialect.nameFault?_eq_none_iff

/-- A bare word is written exactly if it is allowed. -/
theorem BareWord.error?_eq_none_iff {kind : BareWord} {word : String} :
    kind.error? word = none ↔ kind.allows word = true := by
  unfold BareWord.error?
  split <;> simp_all

/-- A column is without error if it is the wildcard, or else if its name can be quoted. -/
theorem Column.error?_eq_none_iff {column : Column} :
    column.error? d = none ↔ column.Writable d := by
  unfold Column.error? Column.Writable Column.isWildcard
  by_cases hwildcard : column.name = "*"
  · simp [hwildcard]
  · simp [hwildcard, Dialect.nameError?_eq_none_iff_quotable]

/-- A bare column is accepted exactly if it can be written. -/
@[simp]
theorem Column.accepted_bare {column : Column} : column.bare.Accepted d ↔ column.Writable d := by
  unfold Column.bare Column.Writable Column.isWildcard
  by_cases hwildcard : column.name = "*" <;> simp [hwildcard]

/-- The alias in front of a column adds no condition. -/
@[simp]
theorem Column.accepted_layout {column : Column} :
    (column.layout d).Accepted d ↔ column.Writable d := by
  simp only [Column.layout, accepted_append, accepted_require, Column.error?_eq_none_iff,
    Column.accepted_bare]
  exact ⟨And.right, fun h ↦ ⟨⟨h, trivial⟩, h⟩⟩

/-- A list of columns is accepted exactly if each of them can be written. -/
@[simp]
theorem Column.accepted_listLayout {lead close : String} {columns : List Column} :
    (Column.listLayout d lead columns close).Accepted d ↔
      ∀ column ∈ columns, column.Writable d := by
  simp [Column.listLayout, Column.error?_eq_none_iff]

/-- A list of names is accepted exactly if each of them can be quoted. -/
@[simp]
theorem Dialect.accepted_namesLayout {lead close : String} {names : List String} :
    (d.namesLayout lead names close).Accepted d ↔ ∀ name ∈ names, d.Quotable name := by
  simp [Dialect.namesLayout, Dialect.namesError?, Dialect.nameError?_eq_none_iff_quotable]

/-- The name of a table is accepted exactly if it and the schema can be quoted. -/
@[simp]
theorem Table.accepted_qualifiedName {table : Table} :
    table.qualifiedName.Accepted d ↔ table.Writable d := by
  unfold Table.qualifiedName Table.Writable
  cases table.schema <;> simp

/-- The alias behind a table adds no condition. -/
@[simp]
theorem Table.accepted_layout {table : Table} :
    (table.layout d).Accepted d ↔ table.Writable d := by
  simp only [Table.layout, accepted_append, Table.accepted_qualifiedName]
  exact and_iff_left trivial

/-- A common table expression is named without fault if its name, if it has one, can be quoted. -/
@[simp]
theorem Cte.accepted_nameLayout {id : Identity} {explicit : Option String} :
    (Cte.nameLayout id explicit).Accepted d ↔ ∀ name ∈ explicit, d.Quotable name := by
  cases explicit with
  | none => exact iff_of_true trivial (by simp)
  | some name => simp [Cte.nameLayout]

/-- A query is assigned without fault if it is accepted and its columns can be written. -/
@[simp]
theorem Assignment.accepted_queryLayout {columns : List Column} {query : Layout} :
    (Assignment.queryLayout d columns query).Accepted d ↔
      (∀ column ∈ columns, column.Writable d) ∧ query.Accepted d := by
  unfold Assignment.queryLayout
  split <;> simp

/-- As many values as columns: all of the columns and all of the values are written. -/
theorem Assignment.accepted_listLayout_zip {columns : List Column} {layouts : List Layout}
    (hlength : layouts.length = columns.length) :
    (∀ layout ∈ Assignment.listLayout (columns.zip layouts), layout.Accepted d) ↔
      (∀ column ∈ columns, column.Writable d) ∧ ∀ layout ∈ layouts, layout.Accepted d := by
  induction columns generalizing layouts with
  | nil =>
    obtain rfl := List.eq_nil_of_length_eq_zero hlength
    simp [Assignment.listLayout]
  | cons assigned columns ih =>
    cases layouts with
    | nil => simp at hlength
    | cons first rest =>
      simp only [List.zip_cons_cons, Assignment.listLayout, List.forall_mem_cons, accepted_append,
        Column.accepted_bare, ih (by simpa using hlength)]
      tauto

/-- A WITH list is accepted exactly if each of its definitions is. -/
theorem Cte.accepted_listLayout (recursive : Bool) (definitions : List Layout) :
    (Cte.listLayout recursive definitions).Accepted d ↔
      ∀ layout ∈ definitions, layout.Accepted d := by
  unfold Cte.listLayout
  split
  · simp_all
  · simp

/-- Every value has one layout. -/
theorem Expr.length_scalarLayouts (values : List Expr) :
    (Expr.scalarLayouts d values).length = values.length := by
  induction values with
  | nil => rfl
  | cons first rest ih => simp [Expr.scalarLayouts, ih]

/-- Behind the columns that are left to a query there is one column for each single value. -/
theorem Expr.length_scalarLayouts_eq_drop {columns : List Column} {values : List Expr}
    (hfewer : values.length < columns.length) :
    (Expr.scalarLayouts d values).length =
      (columns.drop (columns.length - values.length)).length := by
  rw [Expr.length_scalarLayouts, List.length_drop]
  omega

/-! ### Clauses that fit together -/

/-- Columns are without error exactly if all of them belong to the table. -/
theorem Table.columnsError?_eq_none_iff {table : Table} {columns : List Column} :
    table.columnsError? columns = none ↔ table.Owns columns := by
  simp [Table.columnsError?, Table.Owns, Column.isOf]

/-- A query may stand for a scalar exactly if it yields one column or an unknown number of them. -/
theorem Statement.singleColumnError?_eq_none_iff {query : Statement} :
    query.singleColumnError? = none ↔ query.FitsColumns 1 := by
  unfold Statement.singleColumnError? Statement.FitsColumns
  cases query.width <;> simp

/-- A query may be assigned to columns exactly if it yields as many, or an unknown number. -/
theorem Statement.assignedError?_eq_none_iff {query : Statement} {columns : Nat} :
    query.assignedError? columns = none ↔ query.FitsColumns columns := by
  unfold Statement.assignedError?
  split
  · rename_i hone
    rw [hone, Statement.singleColumnError?_eq_none_iff]
  · unfold Statement.FitsColumns
    cases query.width <;> simp

/-- An expression may be a value exactly if it is no query of a wrong width. -/
theorem Expr.scalarError?_eq_none_iff {expr : Expr} :
    expr.scalarError? = none ↔ expr.FitsColumn := by
  unfold Expr.scalarError? Expr.FitsColumn
  split
  · exact Statement.singleColumnError?_eq_none_iff
  · simp_all

/-- Every join has a condition, except for cross joins, which have none. -/
theorem JoinKind.conditionError?_eq_none_iff {kind : JoinKind} {conditioned : Bool} :
    kind.conditionError? conditioned = none ↔ (conditioned = true ↔ kind ≠ .cross) := by
  cases kind <;> cases conditioned <;> simp [JoinKind.conditionError?]

/-- Results are returned only where the dialect has the clause. -/
theorem ResultItem.returningError?_eq_none_iff {items : List ResultItem} :
    ResultItem.returningError? d items = none ↔ ResultItem.Returnable d items := by
  unfold ResultItem.returningError? ResultItem.Returnable
  cases items <;> simp

/-- The values of an UPDATE are without error exactly if they fit the number of columns. -/
theorem NewValues.error?_eq_none_iff {values : NewValues} {columns : Nat} :
    values.error? columns = none ↔ values.FitColumns columns := by
  cases values with
  | each values => simp [NewValues.error?, NewValues.FitColumns]
  | fromQuery source => exact Statement.assignedError?_eq_none_iff
  | queryThenEach source rest =>
    unfold NewValues.error? NewValues.FitColumns
    by_cases hfewer : rest.length < columns
    · simp [hfewer, Statement.assignedError?_eq_none_iff]
    · simp [hfewer]

/-- An UPDATE passes its checks exactly if it has columns, all of its table, and values that fit
them. -/
theorem Update.error?_eq_none_iff {update : Update} :
    update.error? = none ↔
      update.columns ≠ [] ∧ update.table.Owns update.columns ∧
        update.values.FitColumns update.columns.length := by
  unfold Update.error?
  by_cases hcolumns : update.columns = []
  · simp [hcolumns]
  · simp [hcolumns, Table.columnsError?_eq_none_iff, NewValues.error?_eq_none_iff]

/-- The rows of an INSERT are without error exactly if they fit the number of columns. -/
theorem NewRows.error?_eq_none_iff {rows : NewRows} {columns : Nat} :
    rows.error? columns = none ↔ rows.FitColumns columns := by
  cases rows with
  | defaults => simp [NewRows.error?, NewRows.FitColumns]
  | listed rows =>
    unfold NewRows.error? NewRows.FitColumns
    by_cases hcolumns : columns = 0
    · simp [hcolumns]
    · by_cases hrows : rows = [] <;> simp [hcolumns, hrows]
  | fromQuery source =>
    simp only [NewRows.error?, NewRows.FitColumns, Statement.FitsColumns]
    cases source.width with
    | none => simp
    | some width => simp [or_iff_not_imp_left]

/-- An ON CONFLICT clause passes its checks exactly if what it targets and assigns belongs to the
table. -/
theorem ConflictClause.error?_eq_none_iff {conflict : ConflictClause} {table : Table} :
    conflict.error? table = none ↔ conflict.Targets table := by
  unfold ConflictClause.error? ConflictClause.Targets
  rw [Option.or_eq_none_iff, Table.columnsError?_eq_none_iff]
  refine and_congr_right fun _ ↦ ?_
  cases conflict.response with
  | doNothing => simp [ConflictResponse.Targets]
  | doUpdate assignments filter =>
    by_cases hassignments : assignments = []
    · simp [ConflictResponse.Targets, hassignments]
    · simp [ConflictResponse.Targets, hassignments, Table.columnsError?_eq_none_iff]

/-- An INSERT passes its checks exactly if its columns are of its table, its rows fit them, and its
ON CONFLICT clause, if it has one, is known to the dialect and targets the table. -/
theorem Insert.error?_eq_none_iff {insert : Insert} :
    insert.error? d = none ↔
      insert.table.Owns insert.columns ∧ insert.rows.FitColumns insert.columns.length ∧
        ∀ conflict ∈ insert.conflict,
          d.aliasesInsert = true ∧ conflict.Targets insert.table := by
  unfold Insert.error?
  rw [Option.or_eq_none_iff, Option.or_eq_none_iff, Table.columnsError?_eq_none_iff,
    NewRows.error?_eq_none_iff, and_assoc]
  refine and_congr_right fun _ ↦ and_congr_right fun _ ↦ ?_
  cases insert.conflict with
  | none => simp
  | some conflict =>
    by_cases haliases : d.aliasesInsert = true
    · simp [haliases, ConflictClause.error?_eq_none_iff]
    · simp [haliases]

/-! ### Expressions, sources of rows and statements -/

/-- A list of layouts is empty only where there are no expressions. -/
theorem Expr.layouts_eq_nil_iff {exprs : List Expr} : Expr.layouts d exprs = [] ↔ exprs = [] := by
  cases exprs <;> simp [Expr.layouts]

mutual

/-- An expression is accepted exactly if it is well formed. -/
theorem Expr.accepted_layout_iff : (expr : Expr) →
    ((expr.layout d).Accepted d ↔ expr.WellFormed d)
  | .column reference => by simp [Expr.layout, Expr.WellFormed]
  | .literal _ => iff_of_true trivial trivial
  | .star => iff_of_true trivial trivial
  | .defaultValue => iff_of_true trivial trivial
  | .excluded _ => by simp [Expr.layout, Expr.WellFormed]
  | .unary op operand => by
    have hoperand := Expr.accepted_layout_iff operand
    simp only [Expr.layout, Expr.WellFormed, accepted_parenthesized]
    split <;> simp [hoperand]
  | .binary op left right => by
    simp [Expr.layout, Expr.WellFormed, Expr.accepted_layout_iff left,
      Expr.accepted_layout_iff right]
  | .connected connective operands => by
    have hoperands := Expr.accepted_layouts_iff operands
    have hnil : Expr.layouts d operands = [] ↔ operands = [] := Expr.layouts_eq_nil_iff
    simp only [Expr.layout, Expr.WellFormed, ← hoperands, ne_eq, ← hnil]
    split <;> simp_all
  | .call function distinct arguments => by
    simp [Expr.layout, Expr.WellFormed, BareWord.layout, BareWord.error?_eq_none_iff,
      Expr.accepted_layouts_iff arguments]
  | .collate operand collation => by
    simp only [Expr.layout, Expr.WellFormed, accepted_append, accepted_require, accepted_text,
      Dialect.accepted_identifier, Dialect.nameError?_eq_none_iff_quotable,
      Expr.accepted_layout_iff operand]
    tauto
  | .subquery query => by
    simp [Expr.layout, Expr.WellFormed, Statement.accepted_layout_iff query]
  | .inList tested negated candidates => by
    have hcandidates := Expr.accepted_layouts_iff candidates
    have hnil : Expr.layouts d candidates = [] ↔ candidates = [] := Expr.layouts_eq_nil_iff
    simp only [Expr.layout, Expr.WellFormed, accepted_parenthesized, accepted_append,
      accepted_text, and_true, Expr.accepted_layout_iff tested, ← hcandidates, ne_eq, ← hnil]
    refine and_congr_right fun _ ↦ ?_
    split <;> simp_all
  | .inQuery tested negated query => by
    simp [Expr.layout, Expr.WellFormed, Expr.accepted_layout_iff tested,
      Statement.singleColumnError?_eq_none_iff, Statement.accepted_layout_iff query, and_assoc]
  | .between tested negated low high => by
    simp [Expr.layout, Expr.WellFormed, Expr.accepted_layout_iff tested,
      Expr.accepted_layout_iff low, Expr.accepted_layout_iff high, and_assoc]
  | .cast operand typeName => by
    simp [Expr.layout, Expr.WellFormed, BareWord.error?_eq_none_iff,
      Expr.accepted_layout_iff operand, and_comm]
  | .caseWhen branches otherwise => by
    have hbranches : (if branches.isEmpty = true then some (Refusal.malformed .caseWithoutBranches)
        else none) = none ↔ branches ≠ [] := by
      cases branches <;> simp
    simp only [Expr.layout, Expr.WellFormed, accepted_append, accepted_require, accepted_text,
      accepted_clause, and_true, hbranches, Expr.accepted_branchesLayout_iff branches,
      Expr.accepted_layout?_iff otherwise, and_assoc]
  | .existsQuery query => by
    simp [Expr.layout, Expr.WellFormed, Statement.accepted_layout_iff query]
termination_by structural expr => expr

/-- Expressions are accepted exactly if each of them is well formed. -/
theorem Expr.accepted_layouts_iff : (exprs : List Expr) →
    ((∀ layout ∈ Expr.layouts d exprs, layout.Accepted d) ↔ Expr.AllWellFormed d exprs)
  | [] => by simp [Expr.layouts, Expr.AllWellFormed]
  | first :: rest => by
    simp [Expr.layouts, Expr.AllWellFormed, Expr.accepted_layout_iff first,
      ← Expr.accepted_layouts_iff rest]
termination_by structural exprs => exprs

theorem Expr.accepted_layout?_iff : (expr : Option Expr) →
    ((∀ layout ∈ Expr.layout? d expr, layout.Accepted d) ↔ Expr.WellFormed? d expr)
  | none => by simp [Expr.layout?, Expr.WellFormed?]
  | some present => by simp [Expr.layout?, Expr.WellFormed?, Expr.accepted_layout_iff present]
termination_by structural expr => expr

/-- Values are accepted exactly if each is well formed and fits one column. -/
theorem Expr.accepted_scalarLayouts_iff : (exprs : List Expr) →
    ((∀ layout ∈ Expr.scalarLayouts d exprs, layout.Accepted d) ↔ Expr.ScalarsWellFormed d exprs)
  | [] => by simp [Expr.scalarLayouts, Expr.ScalarsWellFormed]
  | first :: rest => by
    simp [Expr.scalarLayouts, Expr.ScalarsWellFormed, Expr.scalarError?_eq_none_iff,
      Expr.accepted_layout_iff first, ← Expr.accepted_scalarLayouts_iff rest]
termination_by structural exprs => exprs

/-- The branches of a CASE are accepted exactly if each condition and each result is well formed. -/
theorem Expr.accepted_branchesLayout_iff : (branches : List (Expr × Expr)) →
    ((Expr.branchesLayout d branches).Accepted d ↔ Expr.BranchesWellFormed d branches)
  | [] => by simp [Expr.branchesLayout, Expr.BranchesWellFormed]
  | (condition, result) :: rest => by
    simp [Expr.branchesLayout, Expr.BranchesWellFormed, Expr.accepted_layout_iff condition,
      Expr.accepted_layout_iff result, Expr.accepted_branchesLayout_iff rest, and_assoc]
termination_by structural branches => branches

/-- Rows are accepted exactly if each of their cells is well formed. -/
theorem Expr.accepted_rowLayouts_iff : (rows : List (List Expr)) →
    ((∀ layout ∈ Expr.rowLayouts d rows, layout.Accepted d) ↔ Expr.RowsWellFormed d rows)
  | [] => by simp [Expr.rowLayouts, Expr.RowsWellFormed]
  | first :: rest => by
    simp [Expr.rowLayouts, Expr.RowsWellFormed, Expr.accepted_layouts_iff first,
      ← Expr.accepted_rowLayouts_iff rest]
termination_by structural rows => rows

/-- A source of rows is accepted exactly if it is well formed. -/
theorem RowSource.accepted_layout_iff : (source : RowSource) →
    ((source.layout d).Accepted d ↔ source.WellFormed d)
  | .table source => by simp [RowSource.layout, RowSource.WellFormed]
  | .cte id explicit => by
    simp only [RowSource.layout, RowSource.WellFormed, accepted_append, Cte.accepted_nameLayout]
    exact and_iff_left trivial
  | .derived id query => by
    simp only [RowSource.layout, RowSource.WellFormed, accepted_append, accepted_parenthesized,
      Statement.accepted_layout_iff query]
    exact and_iff_left trivial
  | .join kind left right condition => by
    simp only [RowSource.layout, RowSource.WellFormed, accepted_append, accepted_text,
      accepted_require, accepted_clause, and_true, RowSource.accepted_layout_iff left,
      RowSource.accepted_layout_iff right, JoinKind.conditionError?_eq_none_iff,
      Expr.accepted_layout?_iff condition, and_assoc]
termination_by structural source => source

theorem RowSource.accepted_layouts_iff : (sources : List RowSource) →
    ((∀ layout ∈ RowSource.layouts d sources, layout.Accepted d) ↔
      RowSource.AllWellFormed d sources)
  | [] => by simp [RowSource.layouts, RowSource.AllWellFormed]
  | first :: rest => by
    simp [RowSource.layouts, RowSource.AllWellFormed, RowSource.accepted_layout_iff first,
      ← RowSource.accepted_layouts_iff rest]
termination_by structural sources => sources

/-- A definition is accepted exactly if its names can be quoted and its query is well formed. -/
theorem Cte.accepted_layout_iff : (cte : Cte) → ((cte.layout d).Accepted d ↔ cte.WellFormed d)
  | ⟨id, explicit, columns, _, query⟩ => by
    have hvisit : (visit id).Accepted d ↔ True := Iff.rfl
    have hcolumns : (if columns.isEmpty = true then nothing
        else d.namesLayout " (" columns ")").Accepted d ↔
          ∀ column ∈ columns, d.Quotable column := by
      cases columns <;> simp
    simp only [Cte.layout, Cte.WellFormed, accepted_append, accepted_parenthesized, accepted_text,
      hvisit, hcolumns, Cte.accepted_nameLayout, Statement.accepted_layout_iff query, true_and,
      and_true, and_assoc]
termination_by structural cte => cte

theorem Cte.accepted_layouts_iff : (ctes : List Cte) →
    ((∀ layout ∈ Cte.layouts d ctes, layout.Accepted d) ↔ Cte.AllWellFormed d ctes)
  | [] => by simp [Cte.layouts, Cte.AllWellFormed]
  | first :: rest => by
    simp [Cte.layouts, Cte.AllWellFormed, Cte.accepted_layout_iff first,
      ← Cte.accepted_layouts_iff rest]
termination_by structural ctes => ctes

/-- A result is accepted exactly if it is well formed. -/
theorem ResultItem.accepted_layout_iff : (item : ResultItem) →
    ((item.layout d).Accepted d ↔ item.WellFormed d)
  | ⟨expr, result⟩ => by
    cases result <;>
      simp [ResultItem.layout, ResultItem.WellFormed, Expr.accepted_layout_iff expr]
termination_by structural item => item

theorem ResultItem.accepted_layouts_iff : (items : List ResultItem) →
    ((∀ layout ∈ ResultItem.layouts d items, layout.Accepted d) ↔
      ResultItem.AllWellFormed d items)
  | [] => by simp [ResultItem.layouts, ResultItem.AllWellFormed]
  | first :: rest => by
    simp [ResultItem.layouts, ResultItem.AllWellFormed, ResultItem.accepted_layout_iff first,
      ← ResultItem.accepted_layouts_iff rest]
termination_by structural items => items

/-- A sort key is accepted exactly if its expression is well formed. -/
theorem OrderTerm.accepted_layout_iff : (term : OrderTerm) →
    ((term.layout d).Accepted d ↔ term.WellFormed d)
  | ⟨expr, direction, nulls⟩ => by
    simp [OrderTerm.layout, OrderTerm.WellFormed, Expr.accepted_layout_iff expr]
termination_by structural term => term

theorem OrderTerm.accepted_layouts_iff : (terms : List OrderTerm) →
    ((∀ layout ∈ OrderTerm.layouts d terms, layout.Accepted d) ↔ OrderTerm.AllWellFormed d terms)
  | [] => by simp [OrderTerm.layouts, OrderTerm.AllWellFormed]
  | first :: rest => by
    simp [OrderTerm.layouts, OrderTerm.AllWellFormed, OrderTerm.accepted_layout_iff first,
      ← OrderTerm.accepted_layouts_iff rest]
termination_by structural terms => terms

/-- An assignment is accepted exactly if it is well formed. -/
theorem Assignment.accepted_layout_iff : (assignment : Assignment) →
    ((assignment.layout d).Accepted d ↔ assignment.WellFormed d)
  | ⟨assigned, expr⟩ => by
    simp [Assignment.layout, Assignment.WellFormed, Expr.scalarError?_eq_none_iff,
      Expr.accepted_layout_iff expr, and_assoc]
termination_by structural assignment => assignment

theorem Assignment.accepted_layouts_iff : (assignments : List Assignment) →
    ((∀ layout ∈ Assignment.layouts d assignments, layout.Accepted d) ↔
      Assignment.AllWellFormed d assignments)
  | [] => by simp [Assignment.layouts, Assignment.AllWellFormed]
  | first :: rest => by
    simp [Assignment.layouts, Assignment.AllWellFormed, Assignment.accepted_layout_iff first,
      ← Assignment.accepted_layouts_iff rest]
termination_by structural assignments => assignments

/-- What is done on a conflict is accepted exactly if it is well formed. -/
theorem ConflictResponse.accepted_layout_iff : (response : ConflictResponse) →
    ((response.layout d).Accepted d ↔ response.WellFormed d)
  | .doNothing => iff_of_true trivial trivial
  | .doUpdate assignments filter => by
    simp [ConflictResponse.layout, ConflictResponse.WellFormed,
      -Option.mem_def, Assignment.accepted_layouts_iff assignments,
      Expr.accepted_layout?_iff filter]
termination_by structural response => response

/-- An ON CONFLICT clause is accepted exactly if it is well formed. -/
theorem ConflictClause.accepted_layout_iff : (conflict : ConflictClause) →
    ((conflict.layout d).Accepted d ↔ conflict.WellFormed d)
  | ⟨target, response⟩ => by
    have htarget : (if target.isEmpty = true then nothing
        else text " (" ++ Column.listLayout d "" target ")").Accepted d ↔
          ∀ column ∈ target, column.Writable d := by
      cases target <;> simp
    simp only [ConflictClause.layout, ConflictClause.WellFormed, accepted_append, accepted_text,
      true_and, htarget, ConflictResponse.accepted_layout_iff response]
termination_by structural conflict => conflict

theorem ConflictClause.accepted_layout?_iff : (conflict : Option ConflictClause) →
    ((ConflictClause.layout? d conflict).Accepted d ↔ ConflictClause.WellFormed? d conflict)
  | none => iff_of_true trivial trivial
  | some present => ConflictClause.accepted_layout_iff present
termination_by structural conflict => conflict

/-- Values that fit their columns are accepted exactly if they are well formed and the columns can
be written. -/
theorem NewValues.accepted_layout_iff (columns : List Column) : (values : NewValues) →
    values.FitColumns columns.length →
    ((values.layout d columns).Accepted d ↔
      (∀ column ∈ columns, column.Writable d) ∧ values.WellFormed d)
  | .each values, hfit => by
    have hlength : (Expr.scalarLayouts d values).length = columns.length :=
      (Expr.length_scalarLayouts values).trans hfit
    simp only [NewValues.layout, NewValues.WellFormed, accepted_commaSeparated,
      Assignment.accepted_listLayout_zip hlength, Expr.accepted_scalarLayouts_iff values]
  | .fromQuery source, _ => by
    simp [NewValues.layout, NewValues.WellFormed, Statement.accepted_layout_iff source]
  | .queryThenEach source rest, hfit => by
    have hlength := Expr.length_scalarLayouts_eq_drop (d := d) hfit.1
    have hsplit : (∀ column ∈ columns, column.Writable d) ↔
        (∀ column ∈ columns.take (columns.length - rest.length), column.Writable d) ∧
          ∀ column ∈ columns.drop (columns.length - rest.length), column.Writable d := by
      rw [← List.forall_mem_append, List.take_append_drop]
    simp only [NewValues.layout, NewValues.WellFormed, accepted_commaSeparated,
      List.forall_mem_cons, Assignment.accepted_queryLayout,
      Assignment.accepted_listLayout_zip hlength, Expr.accepted_scalarLayouts_iff rest,
      Statement.accepted_layout_iff source, hsplit]
    tauto
termination_by structural values => values

/-- The rows of an INSERT are accepted exactly if they are well formed. -/
theorem NewRows.accepted_layout_iff : (rows : NewRows) →
    ((rows.layout d).Accepted d ↔ rows.WellFormed d)
  | .defaults => iff_of_true trivial trivial
  | .listed rows => by
    simp [NewRows.layout, NewRows.WellFormed, Expr.accepted_rowLayouts_iff rows]
  | .fromQuery source => by
    simp [NewRows.layout, NewRows.WellFormed, Statement.accepted_layout_iff source]
termination_by structural rows => rows

/-- A SELECT is accepted exactly if it is well formed. -/
theorem Select.accepted_layout_iff : (select : Select) →
    ((select.layout d).Accepted d ↔ select.WellFormed d)
  | ⟨ctes, distinct, columns, sources, filter, grouping, having, ordering, limit, offset⟩ => by
    have hcolumns : (if columns.isEmpty = true then text "*"
        else commaSeparated (ResultItem.layouts d columns)).Accepted d ↔
          ResultItem.AllWellFormed d columns := by
      rw [← ResultItem.accepted_layouts_iff columns]
      cases columns <;> simp [ResultItem.layouts]
    simp only [Select.layout, Select.WellFormed, accepted_scope, accepted_frame, accepted_append,
      accepted_text, accepted_nothing, accepted_clause, accepted_listClause, hcolumns,
      Cte.accepted_listLayout, Cte.accepted_layouts_iff ctes,
      RowSource.accepted_layouts_iff sources, Expr.accepted_layout?_iff filter,
      Expr.accepted_layouts_iff grouping, Expr.accepted_layout?_iff having,
      OrderTerm.accepted_layouts_iff ordering]
    tauto
termination_by structural select => select

/-- An UPDATE is accepted exactly if it is well formed. -/
theorem Update.accepted_layout_iff : (update : Update) →
    ((update.layout d).Accepted d ↔ update.WellFormed d)
  | ⟨ctes, table, columns, values, sources, filter, returning⟩ => by
    simp only [Update.layout, Update.WellFormed, accepted_scope, accepted_frame, accepted_append,
      accepted_text, accepted_nothing, accepted_clause, accepted_listClause, accepted_require,
      Update.error?_eq_none_iff, ResultItem.returningError?_eq_none_iff, Table.accepted_layout,
      Cte.accepted_listLayout, Cte.accepted_layouts_iff ctes,
      RowSource.accepted_layouts_iff sources, Expr.accepted_layout?_iff filter,
      ResultItem.accepted_layouts_iff returning]
    -- The values are looked at only where they go with the columns.
    refine and_congr_right fun hfit ↦ ?_
    rw [NewValues.accepted_layout_iff columns values hfit.2.2]
    tauto
termination_by structural update => update

/-- An INSERT is accepted exactly if it is well formed. -/
theorem Insert.accepted_layout_iff : (insert : Insert) →
    ((insert.layout d).Accepted d ↔ insert.WellFormed d)
  | ⟨ctes, table, columns, rows, conflict, returning⟩ => by
    have htarget : (if d.aliasesInsert = true then table.layout d
        else table.qualifiedName).Accepted d ↔ table.Writable d := by
      split <;> simp
    have hnamed : (if columns.isEmpty = true then nothing
        else text " (" ++ Column.listLayout d "" columns ")").Accepted d ↔
          ∀ column ∈ columns, column.Writable d := by
      cases columns <;> simp
    simp only [Insert.layout, Insert.WellFormed, accepted_scope, accepted_frame, accepted_append,
      accepted_text, accepted_listClause, accepted_require, htarget, hnamed,
      Insert.error?_eq_none_iff, ResultItem.returningError?_eq_none_iff, Cte.accepted_listLayout,
      Cte.accepted_layouts_iff ctes, NewRows.accepted_layout_iff rows,
      ConflictClause.accepted_layout?_iff conflict, ResultItem.accepted_layouts_iff returning]
    tauto
termination_by structural insert => insert

/-- A DELETE is accepted exactly if it is well formed. -/
theorem Delete.accepted_layout_iff : (delete : Delete) →
    ((delete.layout d).Accepted d ↔ delete.WellFormed d)
  | ⟨ctes, table, sources, filter, returning⟩ => by
    simp only [Delete.layout, Delete.WellFormed, accepted_scope, accepted_frame, accepted_append,
      accepted_text, accepted_nothing, accepted_clause, accepted_listClause, accepted_require,
      ResultItem.returningError?_eq_none_iff, Table.accepted_layout, Cte.accepted_listLayout,
      Cte.accepted_layouts_iff ctes, RowSource.accepted_layouts_iff sources,
      Expr.accepted_layout?_iff filter, ResultItem.accepted_layouts_iff returning]
    tauto
termination_by structural delete => delete

/-- A statement is accepted exactly if it is well formed. -/
theorem Statement.accepted_layout_iff : (statement : Statement) →
    ((statement.layout d).Accepted d ↔ statement.WellFormed d)
  | .select statement => Select.accepted_layout_iff statement
  | .update statement => Update.accepted_layout_iff statement
  | .insert statement => Insert.accepted_layout_iff statement
  | .delete statement => Delete.accepted_layout_iff statement
termination_by structural statement => statement

end

/-- A dialect accepts the layout of a node exactly if the node is well formed. -/
theorem Node.accepted_layout_iff (node : Node) :
    (node.layout d).Accepted d ↔ node.WellFormed d := by
  cases node with
  | statement tree => exact Statement.accepted_layout_iff tree
  | expr tree => exact Expr.accepted_layout_iff tree
  | item tree => exact ResultItem.accepted_layout_iff tree
  | order tree => exact OrderTerm.accepted_layout_iff tree
  | assignment tree => exact Assignment.accepted_layout_iff tree
  | source tree => exact RowSource.accepted_layout_iff tree
  | conflict tree => exact ConflictClause.accepted_layout_iff tree

end BoundSql
