import BoundSql.Proofs.Reading.Layout
import BoundSql.Proofs.Scopes.Outline

/-!
# The outline of a tree

Without its text, the outline of a well-formed tree shows where relations occur in the tree
(`Statement.skeleton_layout`): a definition for every entry of a WITH list, a declaration for every
relation that is listed, a reference for every column inside an expression, and one mark for every
nested statement, each where the tree has it. The target of an INSERT is the one place that a
dialect may leave without an alias. Conditions of the tree are needed where a list without members
has no text, and for an UPDATE, of which some values would be lost if there were not as many of them
as columns.

The proof follows the layouts: one lemma for each combinator, then one for each kind of tree.
-/

set_option autoImplicit false
set_option relaxedAutoImplicit false

namespace BoundSql

variable {d : Dialect} {inside : Bool}

/-! ### The marks of occurrences -/

namespace Occurrence

mutual

/-- What a text says about relations at a place of a tree. -/
def marks (d : Dialect) : Occurrence → List Mark
  | definition relation _ => [.definition relation]
  | table source => [.declaration source.id]
  | insertTarget source => if d.aliasesInsert then [.declaration source.id] else []
  | item relation => [.declaration relation]
  | column relation => [.reference relation]
  | statement inside => [.statement (marksAll d inside)]

/-- What a text says about relations at several places of a tree. -/
def marksAll (d : Dialect) : List Occurrence → List Mark
  | [] => []
  | first :: rest => first.marks d ++ marksAll d rest

end

@[simp]
theorem marksAll_nil : marksAll d [] = [] := rfl

@[simp]
theorem marksAll_singleton (occurrence : Occurrence) :
    marksAll d [occurrence] = occurrence.marks d := by
  simp [marksAll]

/-- The marks of two lists of occurrences stand one after the other. -/
@[simp]
theorem marksAll_append (first second : List Occurrence) :
    marksAll d (first ++ second) = marksAll d first ++ marksAll d second := by
  induction first with
  | nil => rfl
  | cons occurrence rest ih => simp [marksAll, ih]

@[simp]
theorem marksAll_cons (first : Occurrence) (rest : List Occurrence) :
    marksAll d (first :: rest) = first.marks d ++ marksAll d rest := rfl

mutual

/-- The marks of an occurrence in one list are those of its parts in one list. -/
theorem flatAll_marks (d : Dialect) : (occurrence : Occurrence) →
    Mark.flatAll (occurrence.marks d) = occurrence.flat.flatMap (marks d)
  | definition _ _ => rfl
  | table _ => rfl
  | insertTarget source => by
    simp only [marks, flat, List.flatMap_singleton]
    split <;> rfl
  | item _ => rfl
  | column _ => rfl
  | statement inside => by
    simp only [marks, flat, Mark.flatAll, Mark.flat, List.append_nil]
    exact flatAll_marksAll d inside

/-- What a text says at any depth is said of what occurs at any depth. -/
theorem flatAll_marksAll (d : Dialect) : (occurrences : List Occurrence) →
    Mark.flatAll (marksAll d occurrences) = (flatAll occurrences).flatMap (marks d)
  | [] => rfl
  | first :: rest => by
    rw [marksAll, flatAll, Mark.flatAll_append, List.flatMap_append, flatAll_marks d first,
      flatAll_marksAll d rest]

end

end Occurrence

/-! ### Combinators -/

namespace Layout

/-- The skeleton of a sequence is that of its parts, one after the other. -/
@[simp]
theorem skeleton_append (first second : Layout) :
    (first ++ second).skeleton inside = first.skeleton inside ++ second.skeleton inside :=
  Mark.bareAll_append _ _

@[simp]
theorem skeleton_nothing : nothing.skeleton inside = [] := rfl

@[simp]
theorem skeleton_text (characters : String) : (text characters).skeleton inside = [] :=
  Mark.bareAll_map_token _

@[simp]
theorem skeleton_identifier (name : String) : (identifier name).skeleton inside = [] := rfl

@[simp]
theorem skeleton_placeholder (bound : Value) : (placeholder bound).skeleton inside = [] := rfl

/-- A requirement writes nothing that an outline could hold. -/
@[simp]
theorem skeleton_require (error : Option Refusal) : (require error).skeleton inside = [] := by
  cases error <;> rfl

/-- A statement is one mark, whatever stands around it, and its columns are qualified. -/
@[simp]
theorem skeleton_scope (body : Layout) :
    (scope body).skeleton inside = [.statement (body.skeleton true)] := rfl

/-- A frame is outlined as it is written. -/
@[simp]
theorem skeleton_frame (prologue body front link : Layout) :
    (frame prologue body front link).skeleton inside =
      prologue.skeleton inside ++ front.skeleton inside ++ link.skeleton inside ++
        body.skeleton inside := by
  simp only [skeleton, outline, Mark.bareAll_append]

/-- Inside a statement the alias in front of a column is a reference. -/
@[simp]
theorem skeleton_qualifier (relation : Identity) :
    (qualifier relation).skeleton true = [.reference relation] := by
  simp [skeleton, outline, Mark.bareAll, Mark.bare, Mark.bareAll_map_token]

/-- Separators leave no trace in a skeleton. -/
@[simp]
theorem skeleton_separated (separator : String) (layouts : List Layout) :
    (separated separator layouts).skeleton inside = layouts.flatMap (skeleton inside) := by
  fun_induction separated separator layouts with
  | case1 => rfl
  | case2 => simp
  | case3 first rest hrest ih => simp [ih]

@[simp]
theorem skeleton_commaSeparated (layouts : List Layout) :
    (commaSeparated layouts).skeleton inside = layouts.flatMap (skeleton inside) :=
  skeleton_separated ", " layouts

/-- The skeleton of a clause is that of its body, and empty where there is none. -/
@[simp]
theorem skeleton_clause (keyword : String) (body : Option Layout) :
    (clause keyword body).skeleton inside = (body.map (skeleton inside)).getD [] := by
  cases body <;> simp [clause]

/-- The skeleton of a list clause is that of its members. -/
@[simp]
theorem skeleton_listClause (keyword : String) (layouts : List Layout) :
    (listClause keyword layouts).skeleton inside = layouts.flatMap (skeleton inside) := by
  cases layouts <;> simp [listClause]

/-- Parentheses leave no trace in a skeleton. -/
@[simp]
theorem skeleton_parenthesized (body : Layout) :
    (parenthesized body).skeleton inside = body.skeleton inside := by
  simp [parenthesized]

/-- What is written as a whole or not at all has the skeleton of what is written. -/
@[simp]
theorem skeleton_atomic (body : Layout) :
    (atomic body).skeleton inside = body.skeleton inside := by
  simp [atomic]

end Layout

/-! ### Names -/

open Layout

/-- A column that is written bare refers to no alias. -/
@[simp]
theorem Column.skeleton_bare (column : Column) : column.bare.skeleton inside = [] := by
  unfold Column.bare
  split <;> simp

/-- A column inside a statement refers to the alias of its relation, the wildcard too. -/
@[simp]
theorem Column.skeleton_layout (column : Column) :
    (column.layout d).skeleton true = [.reference column.relation] := by
  simp [Column.layout]

/-- A list of bare columns refers to no alias. -/
@[simp]
theorem Column.skeleton_listLayout (lead : String) (columns : List Column) (close : String) :
    (Column.listLayout d lead columns close).skeleton inside = [] := by
  simp [Column.listLayout, List.flatMap_map]

/-- A list of names refers to no alias. -/
@[simp]
theorem Dialect.skeleton_namesLayout (lead : String) (names : List String) (close : String) :
    (d.namesLayout lead names close).skeleton inside = [] := by
  simp [Dialect.namesLayout, List.flatMap_map]

/-- A bare word refers to no alias. -/
@[simp]
theorem BareWord.skeleton_layout (kind : BareWord) (word : String) :
    (kind.layout word).skeleton inside = [] := by
  simp [BareWord.layout]

/-- Something stands in front of an alias that is declared under every dialect. -/
theorem Dialect.aliasLead_ne_empty (d : Dialect) : d.aliasLead ≠ "" := by
  unfold Dialect.aliasLead
  split <;> decide

/-- The alias behind a source of rows or a target is declared there. -/
@[simp]
theorem Dialect.skeleton_aliasLead (d : Dialect) (relation : Identity) :
    (relationAlias d.aliasLead relation).skeleton inside = [.declaration relation] := by
  simp only [skeleton, outline, if_neg d.aliasLead_ne_empty, Mark.bareAll_append,
    Mark.bareAll_map_token]
  rfl

/-- A table is named without an alias. -/
@[simp]
theorem Table.skeleton_qualifiedName (table : Table) :
    table.qualifiedName.skeleton inside = [] := by
  unfold Table.qualifiedName
  cases table.schema <;> simp

/-- A table declares its alias behind its name. -/
@[simp]
theorem Table.skeleton_layout (table : Table) :
    (table.layout d).skeleton inside = [.declaration table.id] := by
  simp [Table.layout]

/-- The alias of a relation that stands for its name is no declaration. -/
@[simp]
theorem Cte.skeleton_nameLayout (id : Identity) (name : Option String) :
    (Cte.nameLayout id name).skeleton inside = [] := by
  cases name <;> rfl

/-- The skeleton of a WITH list is that of its definitions. -/
@[simp]
theorem Cte.skeleton_listLayout (recursive : Bool) (definitions : List Layout) :
    (Cte.listLayout recursive definitions).skeleton inside =
      definitions.flatMap (skeleton inside) := by
  cases definitions <;> simp [Cte.listLayout]

/-- The skeleton of a query that is assigned to columns is that of the query. -/
@[simp]
theorem Assignment.skeleton_queryLayout (columns : List Column) (query : Layout) :
    (Assignment.queryLayout d columns query).skeleton inside = query.skeleton inside := by
  unfold Assignment.queryLayout
  split <;> simp

/-- As many values as columns: no value is lost. -/
theorem Assignment.skeleton_listLayout_zip (inside : Bool) (columns : List Column)
    (layouts : List Layout) (hlength : layouts.length = columns.length) :
    (Assignment.listLayout (columns.zip layouts)).flatMap (skeleton inside) =
      layouts.flatMap (skeleton inside) := by
  induction columns generalizing layouts with
  | nil =>
    obtain rfl := List.eq_nil_of_length_eq_zero hlength
    rfl
  | cons assigned columns ih =>
    cases layouts with
    | nil => simp at hlength
    | cons first rest =>
      simp [Assignment.listLayout, ih rest (by simpa using hlength)]

/-! ### Expressions, sources of rows and statements -/

open Occurrence (marks marksAll marksAll_append marksAll_cons)

mutual

/-- The skeleton of an expression marks the columns and the statements in it. -/
theorem Expr.skeleton_layout : (expr : Expr) → expr.WellFormed d →
    (expr.layout d).skeleton true = marksAll d expr.occurrences
  | .column reference, _ => by simp [Expr.layout, Expr.occurrences, marks]
  | .literal _, _ => rfl
  | .star, _ => by simp [Expr.layout, Expr.occurrences]
  | .defaultValue, _ => by simp [Expr.layout, Expr.occurrences]
  | .excluded _, _ => by simp [Expr.layout, Expr.occurrences]
  | .unary op operand, h => by
    simp only [Expr.layout, Expr.occurrences, skeleton_parenthesized,
      ← Expr.skeleton_layout operand h]
    split <;> simp
  | .binary op left right, h => by
    simp [Expr.layout, Expr.occurrences, Expr.skeleton_layout left h.1,
      Expr.skeleton_layout right h.2]
  | .connected connective operands, h => by
    have hoperands := Expr.skeleton_layouts operands h.2
    match operands with
    | [] => exact absurd rfl h.1
    | [only] => simpa [Expr.layouts, Expr.layout, Expr.occurrences] using hoperands
    | first :: second :: rest => simp [Expr.layout, Expr.occurrences, Expr.layouts, ← hoperands]
  | .call function distinct arguments, h => by
    simp [Expr.layout, Expr.occurrences, Expr.skeleton_layouts arguments h.2]
  | .collate operand collation, h => by
    simp [Expr.layout, Expr.occurrences, Expr.skeleton_layout operand h.1]
  | .subquery query, h => by
    simp [Expr.layout, Expr.occurrences, Statement.skeleton_layout true query h]
  | .inList tested negated candidates, h => by
    have hcandidates := Expr.skeleton_layouts candidates h.2.2
    cases candidates with
    | nil => exact absurd rfl h.2.1
    | cons first rest =>
      simp [Expr.layout, Expr.occurrences, Expr.layouts, Expr.skeleton_layout tested h.1,
        ← hcandidates]
  | .inQuery tested negated query, h => by
    simp [Expr.layout, Expr.occurrences, Expr.skeleton_layout tested h.1,
      Statement.skeleton_layout true query h.2.2]
  | .between tested negated low high, h => by
    simp [Expr.layout, Expr.occurrences, Expr.skeleton_layout tested h.1,
      Expr.skeleton_layout low h.2.1, Expr.skeleton_layout high h.2.2]
  | .cast operand typeName, h => by
    simp [Expr.layout, Expr.occurrences, Expr.skeleton_layout operand h.1]
  | .caseWhen branches otherwise, h => by
    simp [Expr.layout, Expr.occurrences, Expr.skeleton_branchesLayout branches h.2.1,
      Expr.skeleton_layout? otherwise h.2.2]
  | .existsQuery query, h => by
    simp [Expr.layout, Expr.occurrences, Statement.skeleton_layout true query h]
termination_by structural expr => expr

/-- The skeletons of expressions mark what occurs in them, in order. -/
theorem Expr.skeleton_layouts : (exprs : List Expr) → Expr.AllWellFormed d exprs →
    (Expr.layouts d exprs).flatMap (skeleton true) = marksAll d (Expr.occurrencesEach exprs)
  | [], _ => rfl
  | first :: rest, h => by
    simp [Expr.layouts, Expr.occurrencesEach, Expr.skeleton_layout first h.1,
      Expr.skeleton_layouts rest h.2]
termination_by structural exprs => exprs

theorem Expr.skeleton_layout? : (expr : Option Expr) → Expr.WellFormed? d expr →
    ((Expr.layout? d expr).map (skeleton true)).getD [] = marksAll d (Expr.occurrences? expr)
  | none, _ => rfl
  | some present, h => by
    simp [Expr.layout?, Expr.occurrences?, Expr.skeleton_layout present h]
termination_by structural expr => expr

/-- Values are marked as other expressions are: their widths leave no trace. -/
theorem Expr.skeleton_scalarLayouts : (exprs : List Expr) → Expr.ScalarsWellFormed d exprs →
    (Expr.scalarLayouts d exprs).flatMap (skeleton true) =
      marksAll d (Expr.occurrencesEach exprs)
  | [], _ => rfl
  | first :: rest, h => by
    simp [Expr.scalarLayouts, Expr.occurrencesEach, Expr.skeleton_layout first h.1.2,
      Expr.skeleton_scalarLayouts rest h.2]
termination_by structural exprs => exprs

/-- The skeleton of the branches of a CASE marks conditions and results in turn. -/
theorem Expr.skeleton_branchesLayout : (branches : List (Expr × Expr)) →
    Expr.BranchesWellFormed d branches →
    (Expr.branchesLayout d branches).skeleton true =
      marksAll d (Expr.occurrencesBranches branches)
  | [], _ => rfl
  | (condition, result) :: rest, h => by
    simp [Expr.branchesLayout, Expr.occurrencesBranches, Expr.skeleton_layout condition h.1,
      Expr.skeleton_layout result h.2.1, Expr.skeleton_branchesLayout rest h.2.2]
termination_by structural branches => branches

/-- The skeletons of rows mark what occurs in their cells, in order. -/
theorem Expr.skeleton_rowLayouts : (rows : List (List Expr)) → Expr.RowsWellFormed d rows →
    (Expr.rowLayouts d rows).flatMap (skeleton true) = marksAll d (Expr.occurrencesRows rows)
  | [], _ => rfl
  | first :: rest, h => by
    simp [Expr.rowLayouts, Expr.occurrencesRows, Expr.skeleton_layouts first h.1,
      Expr.skeleton_rowLayouts rest h.2]
termination_by structural rows => rows

/-- The skeleton of a source of rows declares the relations that it lists, a derived table behind
its query. -/
theorem RowSource.skeleton_layout : (source : RowSource) → source.WellFormed d →
    (source.layout d).skeleton true = marksAll d source.occurrences
  | .table source, _ => by simp [RowSource.layout, RowSource.occurrences, marks]
  | .cte id explicit, _ => by simp [RowSource.layout, RowSource.occurrences, marks]
  | .derived id query, h => by
    simp [RowSource.layout, RowSource.occurrences, marks, Statement.skeleton_layout true query h]
  | .join kind left right condition, h => by
    simp [RowSource.layout, RowSource.occurrences, RowSource.skeleton_layout left h.1,
      RowSource.skeleton_layout right h.2.1, Expr.skeleton_layout? condition h.2.2.2]
termination_by structural source => source

/-- The skeletons of sources declare the relations of each, in order. -/
theorem RowSource.skeleton_layouts : (sources : List RowSource) →
    RowSource.AllWellFormed d sources →
    (RowSource.layouts d sources).flatMap (skeleton true) =
      marksAll d (RowSource.occurrencesEach sources)
  | [], _ => rfl
  | first :: rest, h => by
    simp [RowSource.layouts, RowSource.occurrencesEach, RowSource.skeleton_layout first h.1,
      RowSource.skeleton_layouts rest h.2]
termination_by structural sources => sources

/-- The skeleton of a definition marks the relation that is defined, and then the query. -/
theorem Cte.skeleton_layout : (cte : Cte) → cte.WellFormed d →
    (cte.layout d).skeleton true = marksAll d cte.occurrences
  | ⟨id, explicit, columns, _, query⟩, h => by
    have hvisit : (visit id).skeleton true = [.definition id] := rfl
    simp only [Cte.layout, Cte.occurrences, skeleton_append, skeleton_parenthesized,
      Statement.skeleton_layout true query h.2.2, hvisit, Cte.skeleton_nameLayout, marksAll_cons,
      marks]
    split <;> simp
termination_by structural cte => cte

/-- The skeletons of definitions mark what occurs in each, in order. -/
theorem Cte.skeleton_layouts : (ctes : List Cte) → Cte.AllWellFormed d ctes →
    (Cte.layouts d ctes).flatMap (skeleton true) = marksAll d (Cte.occurrencesEach ctes)
  | [], _ => rfl
  | first :: rest, h => by
    simp [Cte.layouts, Cte.occurrencesEach, Cte.skeleton_layout first h.1,
      Cte.skeleton_layouts rest h.2]
termination_by structural ctes => ctes

/-- The skeleton of a result is that of its expression: its name is no alias of a relation. -/
theorem ResultItem.skeleton_layout : (item : ResultItem) → item.WellFormed d →
    (item.layout d).skeleton true = marksAll d item.occurrences
  | ⟨expr, result⟩, h => by
    cases result <;>
      simp [ResultItem.layout, ResultItem.occurrences, Expr.skeleton_layout expr h.1]
termination_by structural item => item

/-- The skeletons of results mark what occurs in each, in order. -/
theorem ResultItem.skeleton_layouts : (items : List ResultItem) →
    ResultItem.AllWellFormed d items →
    (ResultItem.layouts d items).flatMap (skeleton true) =
      marksAll d (ResultItem.occurrencesEach items)
  | [], _ => rfl
  | first :: rest, h => by
    simp [ResultItem.layouts, ResultItem.occurrencesEach, ResultItem.skeleton_layout first h.1,
      ResultItem.skeleton_layouts rest h.2]
termination_by structural items => items

/-- The skeleton of a sort key is that of its expression. -/
theorem OrderTerm.skeleton_layout : (term : OrderTerm) → term.WellFormed d →
    (term.layout d).skeleton true = marksAll d term.occurrences
  | ⟨expr, direction, nulls⟩, h => by
    cases direction <;> cases nulls <;>
      simp [OrderTerm.layout, OrderTerm.occurrences, Expr.skeleton_layout expr h]
termination_by structural term => term

/-- The skeletons of sort keys mark what occurs in each, in order. -/
theorem OrderTerm.skeleton_layouts : (terms : List OrderTerm) →
    OrderTerm.AllWellFormed d terms →
    (OrderTerm.layouts d terms).flatMap (skeleton true) =
      marksAll d (OrderTerm.occurrencesEach terms)
  | [], _ => rfl
  | first :: rest, h => by
    simp [OrderTerm.layouts, OrderTerm.occurrencesEach, OrderTerm.skeleton_layout first h.1,
      OrderTerm.skeleton_layouts rest h.2]
termination_by structural terms => terms

/-- The skeleton of an assignment is that of its value: the column is written bare. -/
theorem Assignment.skeleton_layout : (assignment : Assignment) → assignment.WellFormed d →
    (assignment.layout d).skeleton true = marksAll d assignment.occurrences
  | ⟨assigned, expr⟩, h => by
    simp [Assignment.layout, Assignment.occurrences, Expr.skeleton_layout expr h.2.2]
termination_by structural assignment => assignment

/-- The skeletons of assignments mark what occurs in each, in order. -/
theorem Assignment.skeleton_layouts : (assignments : List Assignment) →
    Assignment.AllWellFormed d assignments →
    (Assignment.layouts d assignments).flatMap (skeleton true) =
      marksAll d (Assignment.occurrencesEach assignments)
  | [], _ => rfl
  | first :: rest, h => by
    simp [Assignment.layouts, Assignment.occurrencesEach, Assignment.skeleton_layout first h.1,
      Assignment.skeleton_layouts rest h.2]
termination_by structural assignments => assignments

/-- The skeleton of what is done on a conflict marks the assigned values and then the condition. -/
theorem ConflictResponse.skeleton_layout : (response : ConflictResponse) →
    response.WellFormed d →
    (response.layout d).skeleton true = marksAll d response.occurrences
  | .doNothing, _ => by simp [ConflictResponse.layout, ConflictResponse.occurrences]
  | .doUpdate assignments filter, h => by
    simp [ConflictResponse.layout, ConflictResponse.occurrences,
      Assignment.skeleton_layouts assignments h.1, Expr.skeleton_layout? filter h.2]
termination_by structural response => response

/-- The skeleton of an ON CONFLICT clause is that of its response: the target is written bare. -/
theorem ConflictClause.skeleton_layout : (conflict : ConflictClause) →
    conflict.WellFormed d →
    (conflict.layout d).skeleton true = marksAll d conflict.occurrences
  | ⟨target, response⟩, h => by
    simp only [ConflictClause.layout, ConflictClause.occurrences, skeleton_append, skeleton_text,
      ConflictResponse.skeleton_layout response h.2]
    split <;> simp
termination_by structural conflict => conflict

theorem ConflictClause.skeleton_layout? : (conflict : Option ConflictClause) →
    ConflictClause.WellFormed? d conflict →
    (ConflictClause.layout? d conflict).skeleton true =
      marksAll d (ConflictClause.occurrences? conflict)
  | none, _ => rfl
  | some present, h => ConflictClause.skeleton_layout present h
termination_by structural conflict => conflict

/-- The skeleton of the values of an UPDATE marks every one of them, as there are as many
columns. -/
theorem NewValues.skeleton_layout (columns : List Column) : (values : NewValues) →
    values.FitColumns columns.length → values.WellFormed d →
    (values.layout d columns).skeleton true = marksAll d values.occurrences
  | .each values, hfit, h => by
    have hlength : (Expr.scalarLayouts d values).length = columns.length :=
      (Expr.length_scalarLayouts values).trans hfit
    simp [NewValues.layout, NewValues.occurrences,
      Assignment.skeleton_listLayout_zip true _ _ hlength, Expr.skeleton_scalarLayouts values h]
  | .fromQuery source, _, h => by
    simp [NewValues.layout, NewValues.occurrences, Statement.skeleton_layout true source h]
  | .queryThenEach source rest, hfit, h => by
    have hlength := Expr.length_scalarLayouts_eq_drop (d := d) hfit.1
    simp [NewValues.layout, NewValues.occurrences,
      Assignment.skeleton_listLayout_zip true _ _ hlength,
      Expr.skeleton_scalarLayouts rest h.2, Statement.skeleton_layout true source h.1]
termination_by structural values => values

/-- The skeleton of the rows of an INSERT marks the cells, or the query. -/
theorem NewRows.skeleton_layout : (rows : NewRows) → rows.WellFormed d →
    (rows.layout d).skeleton true = marksAll d rows.occurrences
  | .defaults, _ => by simp [NewRows.layout, NewRows.occurrences]
  | .listed rows, h => by
    simp [NewRows.layout, NewRows.occurrences, Expr.skeleton_rowLayouts rows h]
  | .fromQuery source, h => by
    simp [NewRows.layout, NewRows.occurrences, Statement.skeleton_layout true source h]
termination_by structural rows => rows

/-- The skeleton of a SELECT marks what occurs in its clauses, in the order of the text. -/
theorem Select.skeleton_layout (inside : Bool) : (select : Select) → select.WellFormed d →
    (select.layout d).skeleton inside = marksAll d select.occurrences
  | ⟨ctes, distinct, columns, sources, filter, grouping, having, ordering, limit, offset⟩, h => by
    obtain ⟨hctes, hcolumns, hsources, hfilter, hgrouping, hhaving, hordering⟩ := h
    have hselected : (if columns.isEmpty = true then Layout.text "*"
          else commaSeparated (ResultItem.layouts d columns)).skeleton true =
        marksAll d (ResultItem.occurrencesEach columns) := by
      rw [← ResultItem.skeleton_layouts columns hcolumns]
      cases columns <;> simp [ResultItem.layouts]
    simp [-List.isEmpty_iff, Select.layout, Select.occurrences, marks, hselected,
      Cte.skeleton_layouts ctes hctes, RowSource.skeleton_layouts sources hsources,
      Expr.skeleton_layout? filter hfilter, Expr.skeleton_layouts grouping hgrouping,
      Expr.skeleton_layout? having hhaving, OrderTerm.skeleton_layouts ordering hordering]
termination_by structural select => select

/-- The skeleton of an UPDATE declares the target behind the WITH list and before all else. -/
theorem Update.skeleton_layout (inside : Bool) : (update : Update) → update.WellFormed d →
    (update.layout d).skeleton inside = marksAll d update.occurrences
  | ⟨ctes, table, columns, values, sources, filter, returning⟩, h => by
    obtain ⟨hfit, hctes, -, -, hvalues, hsources, hfilter, -, hreturning⟩ := h
    simp [Update.layout, Update.occurrences, marks, Cte.skeleton_layouts ctes hctes,
      RowSource.skeleton_layouts sources hsources, Expr.skeleton_layout? filter hfilter,
      ResultItem.skeleton_layouts returning hreturning,
      NewValues.skeleton_layout columns values hfit.2.2 hvalues]
termination_by structural update => update

/-- The skeleton of an INSERT declares the target where the dialect writes its alias. -/
theorem Insert.skeleton_layout (inside : Bool) : (insert : Insert) → insert.WellFormed d →
    (insert.layout d).skeleton inside = marksAll d insert.occurrences
  | ⟨ctes, table, columns, rows, conflict, returning⟩, h => by
    obtain ⟨-, hctes, -, -, hrows, hconflict, -, hreturning⟩ := h
    have htarget : (if d.aliasesInsert then table.layout d else table.qualifiedName).skeleton
          true = (Occurrence.insertTarget table).marks d := by
      rw [marks]
      split <;> simp
    have hnamed : (if columns.isEmpty then Layout.nothing
          else Layout.text " (" ++ Column.listLayout d "" columns ")").skeleton true = [] := by
      split <;> simp
    simp [-List.isEmpty_iff, Insert.layout, Insert.occurrences, marks, hnamed, htarget,
      Cte.skeleton_layouts ctes hctes, ResultItem.skeleton_layouts returning hreturning,
      NewRows.skeleton_layout rows hrows, ConflictClause.skeleton_layout? conflict hconflict]
termination_by structural insert => insert

/-- The skeleton of a DELETE declares the target behind the WITH list and before all else. -/
theorem Delete.skeleton_layout (inside : Bool) : (delete : Delete) → delete.WellFormed d →
    (delete.layout d).skeleton inside = marksAll d delete.occurrences
  | ⟨ctes, table, sources, filter, returning⟩, h => by
    obtain ⟨hctes, -, hsources, hfilter, -, hreturning⟩ := h
    simp [Delete.layout, Delete.occurrences, marks, Cte.skeleton_layouts ctes hctes,
      RowSource.skeleton_layouts sources hsources, Expr.skeleton_layout? filter hfilter,
      ResultItem.skeleton_layouts returning hreturning]
termination_by structural delete => delete

/-- Without its text, the outline of a statement shows where relations occur in it. -/
theorem Statement.skeleton_layout (inside : Bool) : (statement : Statement) →
    statement.WellFormed d →
    (statement.layout d).skeleton inside = marksAll d statement.occurrences
  | .select statement, h => Select.skeleton_layout inside statement h
  | .update statement, h => Update.skeleton_layout inside statement h
  | .insert statement, h => Insert.skeleton_layout inside statement h
  | .delete statement, h => Delete.skeleton_layout inside statement h
termination_by structural statement => statement

end

end BoundSql
