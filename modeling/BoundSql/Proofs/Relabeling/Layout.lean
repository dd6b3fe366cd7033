import BoundSql.Proofs.Acceptance
import BoundSql.Proofs.Relabeling.Tree

/-!
# The layout of a relabeled tree

A relabeling that keeps the names can be moved from a tree to its layout (`Node.layout_relabel`):
the checks that look at a tree as a whole see widths, lengths and names, and whether a column
belongs to a table, but neither a value nor an identity by itself.
-/

set_option autoImplicit false
set_option relaxedAutoImplicit false

namespace BoundSql

variable {m : Relabeling} {d : Dialect}

namespace Layout

/-- A layout with its values and its identities replaced. -/
def relabel (m : Relabeling) : Layout → Layout
  | placeholder bound => placeholder (m.value bound)
  | visit relation => visit (m.relation relation)
  | relationAlias lead relation => relationAlias lead (m.relation relation)
  | qualifier relation => qualifier (m.relation relation)
  | seq first second => seq (first.relabel m) (second.relabel m)
  | scope body => scope (body.relabel m)
  | frame prologue body front link =>
    frame (prologue.relabel m) (body.relabel m) (front.relabel m) (link.relabel m)
  | other => other

/-- Relabeling goes through a sequence part by part. -/
@[simp]
theorem relabel_append (first second : Layout) :
    (first ++ second).relabel m = first.relabel m ++ second.relabel m := rfl

@[simp]
theorem relabel_nothing : nothing.relabel m = nothing := rfl

@[simp]
theorem relabel_text (characters : String) : (text characters).relabel m = text characters := rfl

@[simp]
theorem relabel_identifier (name : String) : (identifier name).relabel m = identifier name := rfl

@[simp]
theorem relabel_fail (error : Refusal) : (fail error).relabel m = fail error := rfl

/-- A requirement is kept, since errors carry no identity and no value. -/
@[simp]
theorem relabel_require (error : Option Refusal) : (require error).relabel m = require error := by
  cases error <;> rfl

/-- Separators carry nothing that could be relabeled. -/
@[simp]
theorem relabel_separated (separator : String) (layouts : List Layout) :
    (separated separator layouts).relabel m = separated separator (layouts.map (relabel m)) := by
  fun_induction separated separator layouts with
  | case1 => rfl
  | case2 => rfl
  | case3 first rest hrest ih =>
    cases rest with
    | nil => exact absurd rfl hrest
    | cons second rest => simp [ih, separated]

@[simp]
theorem relabel_commaSeparated (layouts : List Layout) :
    (commaSeparated layouts).relabel m = commaSeparated (layouts.map (relabel m)) :=
  relabel_separated ", " layouts

/-- A clause keeps its keyword, and is absent where it was. -/
@[simp]
theorem relabel_clause (keyword : String) (body : Option Layout) :
    (clause keyword body).relabel m = clause keyword (body.map (relabel m)) := by
  cases body <;> rfl

/-- A list clause keeps its keyword, and is left out where its list is empty. -/
@[simp]
theorem relabel_listClause (keyword : String) (layouts : List Layout) :
    (listClause keyword layouts).relabel m = listClause keyword (layouts.map (relabel m)) := by
  unfold listClause
  rw [List.isEmpty_map]
  split
  · rfl
  · simp

@[simp]
theorem relabel_parenthesized (body : Layout) :
    (parenthesized body).relabel m = parenthesized (body.relabel m) := rfl

@[simp]
theorem relabel_atomic (body : Layout) : (atomic body).relabel m = atomic (body.relabel m) := rfl

end Layout

open Layout

/-! ### Checks -/

/-- Since relations stay apart, a column belongs to the same tables as before. -/
@[simp]
theorem Column.isOf_relabel (column : Column) (table : Table) :
    (column.relabel m).isOf (table.relabel m) = column.isOf table := by
  have hidentity : m.relation column.relation = m.relation table.id ↔
      column.relation = table.id :=
    ⟨m.relation_injective _ _, congrArg m.relation⟩
  simp [Column.isOf, Column.relabel, Table.relabel, hidentity]

/-- The wildcard stays the wildcard, and no name turns into it. -/
theorem ResultItem.isWildcard_relabel (item : ResultItem) :
    (item.relabel m).isWildcard = item.isWildcard := by
  obtain ⟨expr, result⟩ := item
  cases expr <;> simp [ResultItem.relabel, ResultItem.isWildcard, Expr.isWildcard, Expr.relabel]

/-- A list of results stays as wide as it is. -/
theorem ResultItem.widthOf_relabelEach (items : List ResultItem) :
    ResultItem.widthOf (ResultItem.relabelEach m items) = ResultItem.widthOf items := by
  simp [ResultItem.widthOf, ResultItem.relabelEach_eq_map, Function.comp_def,
    ResultItem.isWildcard_relabel]

/-- A statement stays as wide as it is. -/
@[simp]
theorem Statement.width_relabel (statement : Statement) :
    (statement.relabel m).width = statement.width := by
  cases statement with
  | select select =>
    cases select
    simp only [Statement.relabel, Select.relabel, Statement.width, Select.width,
      ResultItem.widthOf_relabelEach, ResultItem.isEmpty_relabelEach]
  | update update => cases update; exact ResultItem.widthOf_relabelEach _
  | insert insert => cases insert; exact ResultItem.widthOf_relabelEach _
  | delete delete => cases delete; exact ResultItem.widthOf_relabelEach _

/-- A query that is too wide for a scalar stays so, with the same error. -/
@[simp]
theorem Statement.singleColumnError?_relabel (query : Statement) :
    (query.relabel m).singleColumnError? = query.singleColumnError? := by
  simp [Statement.singleColumnError?]

/-- A query stays as wide, or not, as the columns that it is assigned to. -/
@[simp]
theorem Statement.assignedError?_relabel (query : Statement) (columns : Nat) :
    (query.relabel m).assignedError? columns = query.assignedError? columns := by
  simp [Statement.assignedError?]

/-- A cell or an assigned value is refused for its width as before. -/
@[simp]
theorem Expr.scalarError?_relabel (expr : Expr) :
    (expr.relabel m).scalarError? = expr.scalarError? := by
  cases expr <;> simp [Expr.relabel, Expr.scalarError?]

/-- A RETURNING clause is refused, as before, where there are items and the dialect has none. -/
@[simp]
theorem ResultItem.returningError?_relabelEach (items : List ResultItem) :
    ResultItem.returningError? d (ResultItem.relabelEach m items) =
      ResultItem.returningError? d items := by
  simp only [ResultItem.returningError?, ResultItem.isEmpty_relabelEach]

/-- The values of an UPDATE match their columns, or do not, as before. -/
@[simp]
theorem NewValues.error?_relabel (columns : Nat) (values : NewValues) :
    (values.relabel m).error? columns = values.error? columns := by
  cases values <;> simp [NewValues.relabel, NewValues.error?, Expr.relabelEach_eq_map]

/-- The rows of an INSERT match its columns, or do not, as before. -/
@[simp]
theorem NewRows.error?_relabel (columns : Nat) (rows : NewRows) :
    (rows.relabel m).error? columns = rows.error? columns := by
  cases rows <;>
    simp [NewRows.relabel, NewRows.error?, Expr.relabelRows_eq_map, List.findSome?_map,
      Function.comp_def]

section KeptNames

variable (hname : ∀ supplied, m.name supplied = supplied)
include hname

/-- A relabeling that keeps the names keeps those of columns, the wildcard among them. -/
theorem Column.relabel_name (column : Column) : (column.relabel m).name = column.name := by
  unfold Column.relabel
  by_cases hwildcard : column.name = "*"
  · simp [Column.isWildcard, hwildcard]
  · simp [Column.isWildcard, hwildcard, hname]

/-- Columns that are written bare belong to the table, or do not, as before. -/
theorem Table.columnsError?_relabel (table : Table) (columns : List Column) :
    (table.relabel m).columnsError? (columns.map (Column.relabel m)) =
      table.columnsError? columns := by
  simp only [Table.columnsError?, List.findSome?_map, Function.comp_def, Column.isOf_relabel,
    Column.relabel_name hname]
  simp [Table.relabel, hname]

/-- The checks of an UPDATE before it is rendered end as before. -/
theorem Update.error?_relabel (update : Update) : (update.relabel m).error? = update.error? := by
  cases update
  simp [Update.relabel, Update.error?, Table.columnsError?_relabel hname]

omit hname in
/-- The column of a relabeled assignment is the relabeled column. -/
theorem Assignment.column_relabel (assignment : Assignment) :
    (assignment.relabel m).column = assignment.column.relabel m := by
  cases assignment
  rfl

/-- The checks of an ON CONFLICT clause end as before. -/
theorem ConflictClause.error?_relabel (conflict : ConflictClause) (table : Table) :
    (conflict.relabel m).error? (table.relabel m) = conflict.error? table := by
  obtain ⟨target, response⟩ := conflict
  have hassigned (assignments : List Assignment) :
      (assignments.map (Assignment.relabel m)).map Assignment.column =
        (assignments.map Assignment.column).map (Column.relabel m) := by
    simp [Function.comp_def, Assignment.column_relabel]
  cases response with
  | doNothing =>
    simp [ConflictClause.relabel, ConflictResponse.relabel, ConflictClause.error?,
      Table.columnsError?_relabel hname]
  | doUpdate assignments filter =>
    simp only [ConflictClause.relabel, ConflictResponse.relabel, ConflictClause.error?,
      Table.columnsError?_relabel hname, Assignment.relabelEach_eq_map, List.isEmpty_map, hassigned]

/-- The checks of an INSERT before it is rendered end as before. -/
theorem Insert.error?_relabel (insert : Insert) :
    (insert.relabel m).error? d = insert.error? d := by
  obtain ⟨ctes, table, columns, rows, conflict, returning⟩ := insert
  cases conflict <;>
    simp [Insert.relabel, Insert.error?, Table.columnsError?_relabel hname,
      ConflictClause.relabel?, ConflictClause.error?_relabel hname]

end KeptNames

/-! ### Names -/

section KeptNames

variable (hname : ∀ supplied, m.name supplied = supplied)
include hname

/-- A column is written bare under its name, which is kept. -/
theorem Column.bare_relabel (column : Column) :
    (column.relabel m).bare = column.bare.relabel m := by
  unfold Column.bare
  rw [Column.isWildcard_relabel, Column.relabel_name hname]
  split <;> rfl

/-- The name of a column has the fault that it had. -/
theorem Column.error?_relabel (column : Column) :
    (column.relabel m).error? d = column.error? d := by
  simp [Column.error?, Column.relabel_name hname]

/-- Relabeling a column relabels its layout: the alias is that of the new identity. -/
theorem Column.layout_relabel (column : Column) :
    (column.relabel m).layout d = (column.layout d).relabel m := by
  simp only [Column.layout, Column.error?_relabel hname, Column.bare_relabel hname,
    relabel_append, relabel_require]
  rfl

/-- A list of bare columns is laid out as before. -/
theorem Column.listLayout_relabel (lead : String) (columns : List Column) (close : String) :
    Column.listLayout d lead (columns.map (Column.relabel m)) close =
      (Column.listLayout d lead columns close).relabel m := by
  simp only [Column.listLayout, List.findSome?_map, List.map_map, Function.comp_def,
    Column.error?_relabel hname, Column.bare_relabel hname, relabel_append, relabel_require,
    relabel_commaSeparated]
  rfl

/-- A table is written under its name and its schema, which are kept. -/
theorem Table.qualifiedName_relabel (table : Table) :
    (table.relabel m).qualifiedName = table.qualifiedName.relabel m := by
  obtain ⟨id, name, schema⟩ := table
  cases schema <;> simp [Table.qualifiedName, Table.relabel, hname]

/-- Relabeling a table relabels its layout: the new identity is met. -/
theorem Table.layout_relabel (table : Table) :
    (table.relabel m).layout d = (table.layout d).relabel m := by
  simp only [Table.layout, Table.qualifiedName_relabel hname, relabel_append]
  rfl

/-- A list of names is laid out as before. -/
theorem Dialect.namesLayout_relabel (lead : String) (names : List String) (close : String) :
    d.namesLayout lead (names.map m.name) close = (d.namesLayout lead names close).relabel m := by
  simp [Dialect.namesLayout, List.map_id'' hname, Function.comp_def]

/-- A common table expression without a name of its own is written under the alias of its new
identity. -/
theorem Cte.nameLayout_relabel (id : Identity) (name : Option String) :
    Cte.nameLayout (m.relation id) (name.map m.name) = (Cte.nameLayout id name).relabel m := by
  cases name with
  | none => rfl
  | some explicit => simp [Cte.nameLayout, hname]

/-- Pairing columns with the layouts of their values goes along with relabeling both. -/
theorem Assignment.listLayout_relabel (columns : List Column) (layouts : List Layout) :
    Assignment.listLayout ((columns.map (Column.relabel m)).zip (layouts.map (Layout.relabel m))) =
      (Assignment.listLayout (columns.zip layouts)).map (Layout.relabel m) := by
  induction columns generalizing layouts with
  | nil => rfl
  | cons assigned columns ih =>
    cases layouts with
    | nil => rfl
    | cons first rest => simp [Assignment.listLayout, Column.bare_relabel hname, ih]

/-- An assignment of a query to a list of columns goes along with relabeling both. -/
theorem Assignment.queryLayout_relabel (columns : List Column) (query : Layout) :
    Assignment.queryLayout d (columns.map (Column.relabel m)) (query.relabel m) =
      (Assignment.queryLayout d columns query).relabel m := by
  unfold Assignment.queryLayout
  rw [List.length_map]
  split <;> simp [Column.listLayout_relabel hname]

end KeptNames

/-- A WITH clause keeps its keyword and its commas. -/
theorem Cte.listLayout_relabel (recursive : Bool) (definitions : List Layout) :
    Cte.listLayout recursive (definitions.map (Layout.relabel m)) =
      (Cte.listLayout recursive definitions).relabel m := by
  unfold Cte.listLayout
  rw [List.isEmpty_map]
  split
  · rfl
  · simp

/-! ### Expressions, sources of rows and statements -/

-- Induction on the tree. Each statement first replaces its checks, which do not see the relabeling,
-- and then the layouts of its clauses.
mutual

/-- Relabeling an expression relabels its layout. -/
theorem Expr.layout_relabel (hname : ∀ supplied, m.name supplied = supplied) : (expr : Expr) →
    (expr.relabel m).layout d = (expr.layout d).relabel m
  | .column reference => Column.layout_relabel hname reference
  | .literal _ => rfl
  | .star => rfl
  | .defaultValue => rfl
  | .excluded column => by simp [Expr.relabel, Expr.layout, hname]
  | .unary op operand => by
    simp only [Expr.relabel, Expr.layout, Expr.layout_relabel hname operand, relabel_parenthesized]
    split <;> simp
  | .binary op left right => by
    simp [Expr.relabel, Expr.layout, Expr.layout_relabel hname left,
      Expr.layout_relabel hname right]
  | .connected connective operands => by
    simp only [Expr.relabel, Expr.layout, Expr.layouts_relabelEach hname operands]
    match Expr.layouts d operands with
    | [] => rfl
    | [only] => rfl
    | first :: second :: rest => simp
  | .call function distinct arguments => by
    simp [Expr.relabel, Expr.layout, Expr.layouts_relabelEach hname arguments, BareWord.layout]
  | .collate operand collation => by
    simp [Expr.relabel, Expr.layout, Expr.layout_relabel hname operand, hname]
  | .subquery query => by simp [Expr.relabel, Expr.layout, Statement.layout_relabel hname query]
  | .inList tested negated candidates => by
    simp only [Expr.relabel, Expr.layout, Expr.layout_relabel hname tested,
      Expr.layouts_relabelEach hname candidates]
    cases Expr.layouts d candidates <;> simp
  | .inQuery tested negated query => by
    simp [Expr.relabel, Expr.layout, Expr.layout_relabel hname tested,
      Statement.layout_relabel hname query]
  | .between tested negated low high => by
    simp [Expr.relabel, Expr.layout, Expr.layout_relabel hname tested,
      Expr.layout_relabel hname low, Expr.layout_relabel hname high]
  | .cast operand typeName => by
    simp [Expr.relabel, Expr.layout, Expr.layout_relabel hname operand]
  | .caseWhen branches otherwise => by
    have hempty : (Expr.relabelBranches m branches).isEmpty = branches.isEmpty := by
      cases branches <;> rfl
    simp only [Expr.relabel, Expr.layout, Expr.branchesLayout_relabel hname branches,
      Expr.layout?_relabel hname otherwise, hempty]
    simp
  | .existsQuery query => by simp [Expr.relabel, Expr.layout, Statement.layout_relabel hname query]
termination_by structural expr => expr

/-- Relabeling expressions relabels each layout. -/
theorem Expr.layouts_relabelEach (hname : ∀ supplied, m.name supplied = supplied) :
    (exprs : List Expr) →
    Expr.layouts d (Expr.relabelEach m exprs) = (Expr.layouts d exprs).map (Layout.relabel m)
  | [] => rfl
  | first :: rest => by
    simp only [Expr.relabelEach, Expr.layouts, List.map_cons,
      Expr.layout_relabel hname first, Expr.layouts_relabelEach hname rest]
termination_by structural exprs => exprs

theorem Expr.layout?_relabel (hname : ∀ supplied, m.name supplied = supplied) :
    (expr : Option Expr) →
    Expr.layout? d (Expr.relabel? m expr) = (Expr.layout? d expr).map (Layout.relabel m)
  | none => rfl
  | some present => congrArg some (Expr.layout_relabel hname present)
termination_by structural expr => expr

/-- Relabeling assigned values relabels each layout, and their widths are refused as before. -/
theorem Expr.scalarLayouts_relabelEach (hname : ∀ supplied, m.name supplied = supplied) :
    (exprs : List Expr) →
    Expr.scalarLayouts d (Expr.relabelEach m exprs) =
      (Expr.scalarLayouts d exprs).map (Layout.relabel m)
  | [] => rfl
  | first :: rest => by
    have hrest := Expr.scalarLayouts_relabelEach hname rest
    simp only [Expr.relabelEach, Expr.scalarLayouts, List.map_cons, hrest,
      Expr.layout_relabel hname first, Expr.scalarError?_relabel, relabel_append, relabel_require]
termination_by structural exprs => exprs

/-- Relabeling the branches of a CASE relabels their layout. -/
theorem Expr.branchesLayout_relabel (hname : ∀ supplied, m.name supplied = supplied) :
    (branches : List (Expr × Expr)) →
    Expr.branchesLayout d (Expr.relabelBranches m branches) =
      (Expr.branchesLayout d branches).relabel m
  | [] => rfl
  | (condition, result) :: rest => by
    simp [Expr.relabelBranches, Expr.branchesLayout, Expr.layout_relabel hname condition,
      Expr.layout_relabel hname result, Expr.branchesLayout_relabel hname rest]
termination_by structural branches => branches

/-- Relabeling rows relabels the layout of each. -/
theorem Expr.rowLayouts_relabelRows (hname : ∀ supplied, m.name supplied = supplied) :
    (rows : List (List Expr)) →
    Expr.rowLayouts d (Expr.relabelRows m rows) = (Expr.rowLayouts d rows).map (Layout.relabel m)
  | [] => rfl
  | first :: rest => by
    have hfirst := Expr.layouts_relabelEach hname first
    have hrest := Expr.rowLayouts_relabelRows hname rest
    simp only [Expr.relabelRows, Expr.rowLayouts, List.map_cons, hfirst, hrest,
      relabel_parenthesized, relabel_commaSeparated]
termination_by structural rows => rows

/-- Relabeling a source of rows relabels its layout, the conditions of joins included. -/
theorem RowSource.layout_relabel (hname : ∀ supplied, m.name supplied = supplied) :
    (source : RowSource) →
    (source.relabel m).layout d = (source.layout d).relabel m
  | .table source => Table.layout_relabel hname source
  | .cte id explicit => by
    simp only [RowSource.relabel, RowSource.layout, Cte.nameLayout_relabel hname, relabel_append]
    rfl
  | .derived id query => by
    simp only [RowSource.relabel, RowSource.layout, Statement.layout_relabel hname query,
      relabel_append, relabel_parenthesized]
    rfl
  | .join kind left right condition => by
    have hpresent : (Expr.relabel? m condition).isSome = condition.isSome := by
      cases condition <;> rfl
    simp only [RowSource.relabel, RowSource.layout, RowSource.layout_relabel hname left,
      RowSource.layout_relabel hname right, Expr.layout?_relabel hname condition, hpresent]
    simp
termination_by structural source => source

theorem RowSource.layouts_relabelEach (hname : ∀ supplied, m.name supplied = supplied) :
    (sources : List RowSource) →
    RowSource.layouts d (RowSource.relabelEach m sources) =
      (RowSource.layouts d sources).map (Layout.relabel m)
  | [] => rfl
  | first :: rest => by
    simp only [RowSource.relabelEach, RowSource.layouts, List.map_cons,
      RowSource.layout_relabel hname first, RowSource.layouts_relabelEach hname rest]
termination_by structural sources => sources

/-- Relabeling a definition relabels its layout. -/
theorem Cte.layout_relabel (hname : ∀ supplied, m.name supplied = supplied) : (cte : Cte) →
    (cte.relabel m).layout d = (cte.layout d).relabel m
  | ⟨id, explicit, columns, _, query⟩ => by
    simp only [Cte.relabel, Cte.layout, Cte.nameLayout_relabel hname, List.isEmpty_map,
      Dialect.namesLayout_relabel hname, Statement.layout_relabel hname query, relabel_append,
      relabel_parenthesized]
    split <;> rfl
termination_by structural cte => cte

theorem Cte.layouts_relabelEach (hname : ∀ supplied, m.name supplied = supplied) :
    (ctes : List Cte) →
    Cte.layouts d (Cte.relabelEach m ctes) = (Cte.layouts d ctes).map (Layout.relabel m)
  | [] => rfl
  | first :: rest => by
    simp only [Cte.relabelEach, Cte.layouts, List.map_cons,
      Cte.layout_relabel hname first, Cte.layouts_relabelEach hname rest]
termination_by structural ctes => ctes

/-- Relabeling a result relabels its layout. Its name is kept. -/
theorem ResultItem.layout_relabel (hname : ∀ supplied, m.name supplied = supplied) :
    (item : ResultItem) →
    (item.relabel m).layout d = (item.layout d).relabel m
  | ⟨expr, result⟩ => by
    cases result <;> simp [ResultItem.relabel, ResultItem.layout, Expr.layout_relabel hname expr,
      hname]
termination_by structural item => item

theorem ResultItem.layouts_relabelEach (hname : ∀ supplied, m.name supplied = supplied) :
    (items : List ResultItem) →
    ResultItem.layouts d (ResultItem.relabelEach m items) =
      (ResultItem.layouts d items).map (Layout.relabel m)
  | [] => rfl
  | first :: rest => by
    simp only [ResultItem.relabelEach, ResultItem.layouts, List.map_cons,
      ResultItem.layout_relabel hname first, ResultItem.layouts_relabelEach hname rest]
termination_by structural items => items

/-- Relabeling a sort key relabels its layout. -/
theorem OrderTerm.layout_relabel (hname : ∀ supplied, m.name supplied = supplied) :
    (term : OrderTerm) →
    (term.relabel m).layout d = (term.layout d).relabel m
  | ⟨expr, direction, nulls⟩ => by
    simp [OrderTerm.relabel, OrderTerm.layout, Expr.layout_relabel hname expr, Function.comp_def]
termination_by structural term => term

theorem OrderTerm.layouts_relabelEach (hname : ∀ supplied, m.name supplied = supplied) :
    (terms : List OrderTerm) →
    OrderTerm.layouts d (OrderTerm.relabelEach m terms) =
      (OrderTerm.layouts d terms).map (Layout.relabel m)
  | [] => rfl
  | first :: rest => by
    simp only [OrderTerm.relabelEach, OrderTerm.layouts, List.map_cons,
      OrderTerm.layout_relabel hname first, OrderTerm.layouts_relabelEach hname rest]
termination_by structural terms => terms

/-- Relabeling an assignment relabels its layout. -/
theorem Assignment.layout_relabel (hname : ∀ supplied, m.name supplied = supplied) :
    (assignment : Assignment) →
    (assignment.relabel m).layout d = (assignment.layout d).relabel m
  | ⟨assigned, expr⟩ => by
    simp [Assignment.relabel, Assignment.layout, Expr.layout_relabel hname expr,
      Column.bare_relabel hname]
termination_by structural assignment => assignment

theorem Assignment.layouts_relabelEach (hname : ∀ supplied, m.name supplied = supplied) :
    (assignments : List Assignment) →
    Assignment.layouts d (Assignment.relabelEach m assignments) =
      (Assignment.layouts d assignments).map (Layout.relabel m)
  | [] => rfl
  | first :: rest => by
    simp only [Assignment.relabelEach, Assignment.layouts, List.map_cons,
      Assignment.layout_relabel hname first, Assignment.layouts_relabelEach hname rest]
termination_by structural assignments => assignments

/-- Relabeling what is done on a conflict relabels its layout. -/
theorem ConflictResponse.layout_relabel (hname : ∀ supplied, m.name supplied = supplied) :
    (response : ConflictResponse) →
    (response.relabel m).layout d = (response.layout d).relabel m
  | .doNothing => rfl
  | .doUpdate assignments filter => by
    simp only [ConflictResponse.relabel, ConflictResponse.layout,
      Assignment.layouts_relabelEach hname assignments, Expr.layout?_relabel hname filter,
      relabel_append, relabel_atomic, relabel_listClause, relabel_clause]
termination_by structural response => response

/-- Relabeling an ON CONFLICT clause relabels its layout. -/
theorem ConflictClause.layout_relabel (hname : ∀ supplied, m.name supplied = supplied) :
    (conflict : ConflictClause) →
    (conflict.relabel m).layout d = (conflict.layout d).relabel m
  | ⟨target, response⟩ => by
    simp only [ConflictClause.relabel, ConflictClause.layout, List.isEmpty_map,
      Column.listLayout_relabel hname, ConflictResponse.layout_relabel hname response,
      relabel_append]
    split <;> rfl
termination_by structural conflict => conflict

theorem ConflictClause.layout?_relabel? (hname : ∀ supplied, m.name supplied = supplied) :
    (conflict : Option ConflictClause) →
    ConflictClause.layout? d (ConflictClause.relabel? m conflict) =
      (ConflictClause.layout? d conflict).relabel m
  | none => rfl
  | some present => ConflictClause.layout_relabel hname present
termination_by structural conflict => conflict

/-- Relabeling the values of an UPDATE, and their columns, relabels their layout. -/
theorem NewValues.layout_relabel (hname : ∀ supplied, m.name supplied = supplied)
    (columns : List Column) : (values : NewValues) →
    (values.relabel m).layout d (columns.map (Column.relabel m)) =
      (values.layout d columns).relabel m
  | .each values => by
    simp only [NewValues.relabel, NewValues.layout, Expr.scalarLayouts_relabelEach hname values,
      Assignment.listLayout_relabel hname, relabel_commaSeparated]
  | .fromQuery source => by
    simp only [NewValues.relabel, NewValues.layout, Statement.layout_relabel hname source,
      Assignment.queryLayout_relabel hname]
  | .queryThenEach source rest => by
    simp only [NewValues.relabel, NewValues.layout, Statement.layout_relabel hname source,
      Expr.scalarLayouts_relabelEach hname rest, List.length_map, Expr.length_relabelEach,
      ← List.map_take, ← List.map_drop, Assignment.listLayout_relabel hname,
      Assignment.queryLayout_relabel hname, relabel_commaSeparated, List.map_cons]
termination_by structural values => values

/-- Relabeling the rows of an INSERT relabels their layout. -/
theorem NewRows.layout_relabel (hname : ∀ supplied, m.name supplied = supplied) : (rows : NewRows) →
    (rows.relabel m).layout d = (rows.layout d).relabel m
  | .defaults => rfl
  | .listed rows => by
    simp only [NewRows.relabel, NewRows.layout, Expr.rowLayouts_relabelRows hname rows,
      relabel_append, relabel_text, relabel_commaSeparated]
  | .fromQuery source => by
    simp [NewRows.relabel, NewRows.layout, Statement.layout_relabel hname source]
termination_by structural rows => rows

/-- Relabeling a SELECT relabels its layout. -/
theorem Select.layout_relabel (hname : ∀ supplied, m.name supplied = supplied) : (select : Select) →
    (select.relabel m).layout d = (select.layout d).relabel m
  | ⟨ctes, distinct, columns, sources, filter, grouping, having, ordering, limit, offset⟩ => by
    have hselected : (if columns.isEmpty then text "*"
          else commaSeparated ((ResultItem.layouts d columns).map (Layout.relabel m))) =
        (if columns.isEmpty then text "*"
          else commaSeparated (ResultItem.layouts d columns)).relabel m := by
      split <;> simp
    simp only [Select.relabel, Select.layout, Cte.any_recursive_relabelEach,
      ResultItem.isEmpty_relabelEach,
      Cte.layouts_relabelEach hname ctes, Cte.listLayout_relabel,
      ResultItem.layouts_relabelEach hname columns,
      RowSource.layouts_relabelEach hname sources, Expr.layout?_relabel hname filter,
      Expr.layouts_relabelEach hname grouping, Expr.layout?_relabel hname having,
      OrderTerm.layouts_relabelEach hname ordering, hselected, Layout.relabel, relabel_append,
      relabel_listClause, relabel_clause]
termination_by structural select => select

/-- Relabeling an UPDATE relabels its layout. -/
theorem Update.layout_relabel (hname : ∀ supplied, m.name supplied = supplied) : (update : Update) →
    (update.relabel m).layout d = (update.layout d).relabel m
  | ⟨ctes, table, columns, values, sources, filter, returning⟩ => by
    have herror := Update.error?_relabel hname
      ⟨ctes, table, columns, values, sources, filter, returning⟩
    simp only [Update.relabel] at herror
    simp only [Update.relabel, Update.layout, herror, Cte.any_recursive_relabelEach,
      Cte.layouts_relabelEach hname ctes, Cte.listLayout_relabel, Table.layout_relabel hname,
      RowSource.layouts_relabelEach hname sources, NewValues.layout_relabel hname columns values,
      Expr.layout?_relabel hname filter, ResultItem.returningError?_relabelEach,
      ResultItem.layouts_relabelEach hname returning, Layout.relabel, relabel_append,
      relabel_require, relabel_listClause, relabel_clause]
termination_by structural update => update

/-- Relabeling an INSERT relabels its layout. -/
theorem Insert.layout_relabel (hname : ∀ supplied, m.name supplied = supplied) : (insert : Insert) →
    (insert.relabel m).layout d = (insert.layout d).relabel m
  | ⟨ctes, table, columns, rows, conflict, returning⟩ => by
    have herror := Insert.error?_relabel (d := d) hname
      ⟨ctes, table, columns, rows, conflict, returning⟩
    simp only [Insert.relabel] at herror
    simp only [Insert.relabel, Insert.layout, herror, Cte.any_recursive_relabelEach,
      Cte.layouts_relabelEach hname ctes, Cte.listLayout_relabel, Table.layout_relabel hname,
      Table.qualifiedName_relabel hname, NewRows.layout_relabel hname rows,
      ConflictClause.layout?_relabel? hname conflict, ResultItem.returningError?_relabelEach,
      ResultItem.layouts_relabelEach hname returning, List.isEmpty_map,
      Column.listLayout_relabel hname, Layout.relabel, relabel_append, relabel_require,
      relabel_listClause]
    split <;> split <;> rfl
termination_by structural insert => insert

/-- Relabeling a DELETE relabels its layout. -/
theorem Delete.layout_relabel (hname : ∀ supplied, m.name supplied = supplied) : (delete : Delete) →
    (delete.relabel m).layout d = (delete.layout d).relabel m
  | ⟨ctes, table, sources, filter, returning⟩ => by
    simp only [Delete.relabel, Delete.layout, Cte.any_recursive_relabelEach,
      Cte.layouts_relabelEach hname ctes, Cte.listLayout_relabel, Table.layout_relabel hname,
      RowSource.layouts_relabelEach hname sources, Expr.layout?_relabel hname filter,
      ResultItem.returningError?_relabelEach, ResultItem.layouts_relabelEach hname returning,
      Layout.relabel, relabel_append, relabel_require, relabel_listClause, relabel_clause]
termination_by structural delete => delete

/-- Relabeling a statement relabels its layout. -/
theorem Statement.layout_relabel (hname : ∀ supplied, m.name supplied = supplied) :
    (statement : Statement) →
    (statement.relabel m).layout d = (statement.layout d).relabel m
  | .select statement => Select.layout_relabel hname statement
  | .update statement => Update.layout_relabel hname statement
  | .insert statement => Insert.layout_relabel hname statement
  | .delete statement => Delete.layout_relabel hname statement
termination_by structural statement => statement

end

/-- The layout of a relabeled node is the relabeled layout. -/
theorem Node.layout_relabel (hname : ∀ supplied, m.name supplied = supplied) (node : Node) :
    (node.relabel m).layout d = (node.layout d).relabel m := by
  cases node with
  | statement tree => exact Statement.layout_relabel hname tree
  | expr tree => exact Expr.layout_relabel hname tree
  | item tree => exact ResultItem.layout_relabel hname tree
  | order tree => exact OrderTerm.layout_relabel hname tree
  | assignment tree => exact Assignment.layout_relabel hname tree
  | source tree => exact RowSource.layout_relabel hname tree
  | conflict tree => exact ConflictClause.layout_relabel hname tree

end BoundSql
