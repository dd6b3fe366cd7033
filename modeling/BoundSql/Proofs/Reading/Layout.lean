import BoundSql.Proofs.Reading.Tree
import BoundSql.Proofs.WellFormed.Layout

/-!
# Reading a tree is reading its layout

For every reading that fits a dialect and every tree whose layout the dialect accepts, what is taken
from the layout is what is taken from the tree (`Node.read_layout`). The trees are gone through as
well-formed ones, since that is needed in two places: a connective or IN list without operands has
no text, and an UPDATE pairs its columns with its values, of which some would be lost if there were
not as many of the one as of the other.

The proof follows the layouts: one lemma for each combinator, then one for each kind of tree.
-/

set_option autoImplicit false
set_option relaxedAutoImplicit false

namespace BoundSql

variable {α : Type} {r : Reading α} {d : Dialect} {inside : Bool}

/-! ### Combinators -/

namespace Layout

/-- A sequence is read part by part. -/
@[simp]
theorem read_append (first second : Layout) :
    (first ++ second).read r inside = first.read r inside ++ second.read r inside := rfl

@[simp]
theorem read_text (characters : String) : (text characters).read r inside = r.text characters :=
  rfl

@[simp]
theorem read_identifier (name : String) : (identifier name).read r inside = r.name name := rfl

@[simp]
theorem read_nothing : nothing.read r inside = [] := rfl

/-- There is nothing to read from a requirement. -/
@[simp]
theorem read_require (error : Option Refusal) : (require error).read r inside = [] := by
  cases error <;> rfl

/-- A separated list is read member by member, with the separator read between neighbours. -/
@[simp]
theorem read_separated (separator : String) (layouts : List Layout) :
    (separated separator layouts).read r inside =
      r.separated separator (layouts.map (read r inside)) := by
  fun_induction separated separator layouts with
  | case1 => rfl
  | case2 => rfl
  | case3 first rest hrest ih =>
    cases rest with
    | nil => exact absurd rfl hrest
    | cons second rest => simp [ih, Reading.separated, List.append_assoc]

@[simp]
theorem read_commaSeparated (layouts : List Layout) :
    (commaSeparated layouts).read r inside = r.commaSeparated (layouts.map (read r inside)) :=
  read_separated ", " layouts

/-- A clause is read as its keyword and its body, and as nothing where there is no body. -/
@[simp]
theorem read_clause (keyword : String) (body : Option Layout) :
    (clause keyword body).read r inside = r.clause keyword (body.map (read r inside)) := by
  cases body <;> rfl

/-- A list clause is read as its keyword and its members, and as nothing where there are none. -/
@[simp]
theorem read_listClause (keyword : String) (layouts : List Layout) :
    (listClause keyword layouts).read r inside =
      r.listClause keyword (layouts.map (read r inside)) := by
  unfold listClause Reading.listClause
  rw [List.isEmpty_map]
  split <;> simp

@[simp]
theorem read_parenthesized (body : Layout) :
    (parenthesized body).read r inside = r.parenthesized (body.read r inside) := rfl

/-- What is written as a whole or not at all is read like what is written. -/
@[simp]
theorem read_atomic (body : Layout) : (atomic body).read r inside = body.read r inside := by
  cases horder : r.order with
  | meeting => simp [atomic, read_frame_of_meeting horder]
  | writing => simp [atomic, read_frame_of_writing horder]

end Layout

/-! ### Names -/

open Layout

/-- A bare column is read as its name, or as the wildcard. -/
@[simp]
theorem Column.read_bare (column : Column) : column.bare.read r inside = column.readBare r := by
  unfold Column.bare Column.readBare
  split <;> rfl

@[simp]
theorem Column.map_read_bare (columns : List Column) :
    (columns.map Column.bare).map (Layout.read r inside) = columns.map (Column.readBare r) := by
  simp [Function.comp_def]

/-- The check of a column is not read, its alias and its name are. -/
@[simp]
theorem Column.read_layout (column : Column) :
    (column.layout d).read r inside = column.read r inside := by
  simp only [Column.layout, read_append, read_require, read_bare, List.nil_append]
  rfl

/-- A list of columns is read as the bare columns, with commas and what stands around them. -/
@[simp]
theorem Column.read_listLayout (lead : String) (columns : List Column) (close : String) :
    (Column.listLayout d lead columns close).read r inside =
      r.text lead ++ r.commaSeparated (columns.map (Column.readBare r)) ++ r.text close := by
  simp [Column.listLayout, -List.map_map]

/-- A list of names is read as the names, with commas and what stands around them. -/
@[simp]
theorem Dialect.read_namesLayout (lead : String) (names : List String) (close : String) :
    (d.namesLayout lead names close).read r inside =
      r.text lead ++ r.commaSeparated (names.map r.name) ++ r.text close := by
  simp [Dialect.namesLayout, Function.comp_def]

/-- A bare word is read as text. -/
@[simp]
theorem BareWord.read_layout (kind : BareWord) (word : String) :
    (kind.layout word).read r inside = r.text word := by
  simp [BareWord.layout]

/-- A table is read as its name, behind its schema if it has one. -/
@[simp]
theorem Table.read_qualifiedName (table : Table) :
    table.qualifiedName.read r inside = table.readName r := by
  unfold Table.qualifiedName Table.readName
  cases table.schema <;> simp

section Fits

variable (hfits : r.Fits d)
include hfits

/-- A table is read as its name and the alias behind it. -/
theorem Table.read_layout (table : Table) : (table.layout d).read r inside = table.read r := by
  simp only [Table.layout, read_append, Table.read_qualifiedName, Table.read, hfits.tableAlias_eq]
  rfl

/-- A common table expression is read as its name, or else as its alias. -/
theorem Cte.read_nameLayout (id : Identity) (name : Option String) :
    (Cte.nameLayout id name).read r inside = Cte.readName r id name := by
  cases name with
  | some explicit => rfl
  | none => simp [Cte.nameLayout, Layout.read, hfits.text_empty, Cte.readName]

/-- A query that is assigned to columns is read as these columns and the query. -/
theorem Assignment.read_queryLayout (columns : List Column) (query : Layout) :
    (Assignment.queryLayout d columns query).read r inside =
      Assignment.readQuery r columns (query.read r inside) := by
  unfold Assignment.queryLayout Assignment.readQuery
  split <;> simp [hfits.text_empty, Reading.parenthesized]

end Fits

/-- A WITH list is read as its keyword and its definitions, and as nothing where there are none. -/
theorem Cte.read_listLayout (recursive : Bool) (definitions : List Layout) :
    (Cte.listLayout recursive definitions).read r inside =
      Cte.readList r recursive (definitions.map (Layout.read r inside)) := by
  unfold Cte.listLayout Cte.readList
  rw [List.isEmpty_map]
  split <;> simp

/-- As many values as columns: each value stands beside its column. -/
theorem Assignment.read_listLayout_zip (r : Reading α) (inside : Bool) (columns : List Column)
    (layouts : List Layout) (hlength : layouts.length = columns.length) :
    (Assignment.listLayout (columns.zip layouts)).map (Layout.read r inside) =
      Assignment.readPairs r columns (layouts.map (Layout.read r inside)) := by
  induction columns generalizing layouts with
  | nil =>
    obtain rfl := List.eq_nil_of_length_eq_zero hlength
    rfl
  | cons assigned columns ih =>
    cases layouts with
    | nil => simp at hlength
    | cons first rest =>
      simp [Assignment.listLayout, Assignment.readPairs, ih rest (by simpa using hlength)]

/-! ### Expressions, sources of rows and statements -/

mutual

/-- Reading the layout of an expression is reading the expression. -/
theorem Expr.read_layout (hfits : r.Fits d) (inside : Bool) : (expr : Expr) → expr.WellFormed d →
    (expr.layout d).read r inside = expr.read r inside
  | .column reference, _ => Column.read_layout reference
  | .literal _, _ => rfl
  | .star, _ => rfl
  | .defaultValue, _ => rfl
  | .excluded _, _ => rfl
  | .unary op operand, h => by
    simp only [Expr.layout, Expr.read, read_parenthesized,
      ← Expr.read_layout hfits inside operand h]
    split <;> simp
  | .binary op left right, h => by
    simp [Expr.layout, Expr.read, hfits.operator_eq, Expr.read_layout hfits inside left h.1,
      Expr.read_layout hfits inside right h.2]
  | .connected connective operands, h => by
    have hoperands := Expr.readEach_layouts hfits inside operands h.2
    match operands with
    | [] => exact absurd rfl h.1
    | [only] => exact Expr.read_layout hfits inside only h.2.1
    | first :: second :: rest => simp [Expr.layout, Expr.read, Expr.layouts, ← hoperands]
  | .call function distinct arguments, h => by
    cases distinct <;>
      simp [Expr.layout, Expr.read, Expr.readEach_layouts hfits inside arguments h.2,
        hfits.text_empty]
  | .collate operand collation, h => by
    simp [Expr.layout, Expr.read, Expr.read_layout hfits inside operand h.1]
  | .subquery query, h => by
    simp [Expr.layout, Expr.read, Statement.read_layout hfits inside query h]
  | .inList tested negated candidates, h => by
    have hcandidates := Expr.readEach_layouts hfits inside candidates h.2.2
    cases candidates with
    | nil => exact absurd rfl h.2.1
    | cons first rest =>
      simp [Expr.layout, Expr.read, Expr.layouts, Expr.read_layout hfits inside tested h.1,
        ← hcandidates]
  | .inQuery tested negated query, h => by
    simp [Expr.layout, Expr.read, Expr.read_layout hfits inside tested h.1,
      Statement.read_layout hfits inside query h.2.2]
  | .between tested negated low high, h => by
    simp [Expr.layout, Expr.read, Expr.read_layout hfits inside tested h.1,
      Expr.read_layout hfits inside low h.2.1, Expr.read_layout hfits inside high h.2.2]
  | .cast operand typeName, h => by
    simp [Expr.layout, Expr.read, Expr.read_layout hfits inside operand h.1]
  | .caseWhen branches otherwise, h => by
    simp [Expr.layout, Expr.read, Expr.readBranches_layout hfits inside branches h.2.1,
      Expr.read?_layout hfits inside otherwise h.2.2]
  | .existsQuery query, h => by
    simp [Expr.layout, Expr.read, Statement.read_layout hfits inside query h]
termination_by structural expr => expr

/-- Reading the layouts of expressions is reading each of them. -/
theorem Expr.readEach_layouts (hfits : r.Fits d) (inside : Bool) : (exprs : List Expr) →
    Expr.AllWellFormed d exprs →
    (Expr.layouts d exprs).map (Layout.read r inside) = Expr.readEach r inside exprs
  | [], _ => rfl
  | first :: rest, h => by
    simp [Expr.layouts, Expr.readEach, Expr.read_layout hfits inside first h.1,
      Expr.readEach_layouts hfits inside rest h.2]
termination_by structural exprs => exprs

theorem Expr.read?_layout (hfits : r.Fits d) (inside : Bool) : (expr : Option Expr) →
    Expr.WellFormed? d expr →
    (Expr.layout? d expr).map (Layout.read r inside) = Expr.read? r inside expr
  | none, _ => rfl
  | some present, h => by
    simp [Expr.layout?, Expr.read?, Expr.read_layout hfits inside present h]
termination_by structural expr => expr

/-- Values are read as other expressions are. -/
theorem Expr.readEach_scalarLayouts (hfits : r.Fits d) (inside : Bool) : (exprs : List Expr) →
    Expr.ScalarsWellFormed d exprs →
    (Expr.scalarLayouts d exprs).map (Layout.read r inside) = Expr.readEach r inside exprs
  | [], _ => rfl
  | first :: rest, h => by
    simp [Expr.scalarLayouts, Expr.readEach, Expr.read_layout hfits inside first h.1.2,
      Expr.readEach_scalarLayouts hfits inside rest h.2]
termination_by structural exprs => exprs

/-- Reading the layout of the branches of a CASE is reading the branches. -/
theorem Expr.readBranches_layout (hfits : r.Fits d) (inside : Bool) :
    (branches : List (Expr × Expr)) →
    Expr.BranchesWellFormed d branches →
    (Expr.branchesLayout d branches).read r inside = Expr.readBranches r inside branches
  | [], _ => rfl
  | (condition, result) :: rest, h => by
    simp [Expr.branchesLayout, Expr.readBranches, Expr.read_layout hfits inside condition h.1,
      Expr.read_layout hfits inside result h.2.1, Expr.readBranches_layout hfits inside rest h.2.2]
termination_by structural branches => branches

/-- Reading the layouts of rows is reading their cells. -/
theorem Expr.readRows_layouts (hfits : r.Fits d) (inside : Bool) : (rows : List (List Expr)) →
    Expr.RowsWellFormed d rows →
    (Expr.rowLayouts d rows).map (Layout.read r inside) = Expr.readRows r inside rows
  | [], _ => rfl
  | first :: rest, h => by
    simp [Expr.rowLayouts, Expr.readRows, Expr.readEach_layouts hfits inside first h.1,
      Expr.readRows_layouts hfits inside rest h.2]
termination_by structural rows => rows

/-- Reading the layout of a source of rows is reading the source. -/
theorem RowSource.read_layout (hfits : r.Fits d) (inside : Bool) : (source : RowSource) →
    source.WellFormed d → (source.layout d).read r inside = source.read r inside
  | .table source, _ => Table.read_layout hfits source
  | .cte id explicit, _ => by
    simp only [RowSource.layout, RowSource.read, read_append, Cte.read_nameLayout hfits,
      hfits.tableAlias_eq]
    rfl
  | .derived id query, h => by
    simp only [RowSource.layout, RowSource.read, read_append, read_parenthesized,
      hfits.tableAlias_eq, Statement.read_layout hfits inside query h]
    rfl
  | .join kind left right condition, h => by
    simp [RowSource.layout, RowSource.read, RowSource.read_layout hfits inside left h.1,
      RowSource.read_layout hfits inside right h.2.1,
      Expr.read?_layout hfits inside condition h.2.2.2]
termination_by structural source => source

theorem RowSource.readEach_layouts (hfits : r.Fits d) (inside : Bool) : (sources : List RowSource) →
    RowSource.AllWellFormed d sources →
    (RowSource.layouts d sources).map (Layout.read r inside) =
      RowSource.readEach r inside sources
  | [], _ => rfl
  | first :: rest, h => by
    simp [RowSource.layouts, RowSource.readEach, RowSource.read_layout hfits inside first h.1,
      RowSource.readEach_layouts hfits inside rest h.2]
termination_by structural sources => sources

/-- Reading the layout of a definition is reading the definition. -/
theorem Cte.read_layout (hfits : r.Fits d) (inside : Bool) : (cte : Cte) → cte.WellFormed d →
    (cte.layout d).read r inside = cte.read r
  | ⟨id, explicit, columns, _, query⟩, h => by
    simp only [Cte.layout, Cte.read, read_append, read_parenthesized, read_text,
      Cte.read_nameLayout hfits, Statement.read_layout hfits inside query h.2.2]
    split <;> simp [Layout.read]
termination_by structural cte => cte

theorem Cte.readEach_layouts (hfits : r.Fits d) (inside : Bool) : (ctes : List Cte) →
    Cte.AllWellFormed d ctes →
    (Cte.layouts d ctes).map (Layout.read r inside) = Cte.readEach r ctes
  | [], _ => rfl
  | first :: rest, h => by
    simp [Cte.layouts, Cte.readEach, Cte.read_layout hfits inside first h.1,
      Cte.readEach_layouts hfits inside rest h.2]
termination_by structural ctes => ctes

/-- Reading the layout of a result is reading its expression and its name. -/
theorem ResultItem.read_layout (hfits : r.Fits d) (inside : Bool) : (item : ResultItem) →
    item.WellFormed d → (item.layout d).read r inside = item.read r inside
  | ⟨expr, result⟩, h => by
    cases result <;>
      simp [ResultItem.layout, ResultItem.read, Reading.clause,
        Expr.read_layout hfits inside expr h.1]
termination_by structural item => item

theorem ResultItem.readEach_layouts (hfits : r.Fits d) (inside : Bool) : (items : List ResultItem) →
    ResultItem.AllWellFormed d items →
    (ResultItem.layouts d items).map (Layout.read r inside) = ResultItem.readEach r inside items
  | [], _ => rfl
  | first :: rest, h => by
    simp [ResultItem.layouts, ResultItem.readEach, ResultItem.read_layout hfits inside first h.1,
      ResultItem.readEach_layouts hfits inside rest h.2]
termination_by structural items => items

/-- Reading the layout of a sort key is reading the sort key. -/
theorem OrderTerm.read_layout (hfits : r.Fits d) (inside : Bool) : (term : OrderTerm) →
    term.WellFormed d → (term.layout d).read r inside = term.read r inside
  | ⟨expr, direction, nulls⟩, h => by
    simp [OrderTerm.layout, OrderTerm.read, Expr.read_layout hfits inside expr h, Function.comp_def]
termination_by structural term => term

theorem OrderTerm.readEach_layouts (hfits : r.Fits d) (inside : Bool) : (terms : List OrderTerm) →
    OrderTerm.AllWellFormed d terms →
    (OrderTerm.layouts d terms).map (Layout.read r inside) = OrderTerm.readEach r inside terms
  | [], _ => rfl
  | first :: rest, h => by
    simp [OrderTerm.layouts, OrderTerm.readEach, OrderTerm.read_layout hfits inside first h.1,
      OrderTerm.readEach_layouts hfits inside rest h.2]
termination_by structural terms => terms

/-- Reading the layout of an assignment is reading its column and its value. -/
theorem Assignment.read_layout (hfits : r.Fits d) (inside : Bool) : (assignment : Assignment) →
    assignment.WellFormed d →
    (assignment.layout d).read r inside = assignment.read r inside
  | ⟨assigned, expr⟩, h => by
    simp [Assignment.layout, Assignment.read, Expr.read_layout hfits inside expr h.2.2]
termination_by structural assignment => assignment

theorem Assignment.readEach_layouts (hfits : r.Fits d) (inside : Bool) :
    (assignments : List Assignment) →
    Assignment.AllWellFormed d assignments →
    (Assignment.layouts d assignments).map (Layout.read r inside) =
      Assignment.readEach r inside assignments
  | [], _ => rfl
  | first :: rest, h => by
    simp [Assignment.layouts, Assignment.readEach, Assignment.read_layout hfits inside first h.1,
      Assignment.readEach_layouts hfits inside rest h.2]
termination_by structural assignments => assignments

/-- Reading the layout of what is done on a conflict is reading the response. -/
theorem ConflictResponse.read_layout (hfits : r.Fits d) (inside : Bool) :
    (response : ConflictResponse) →
    response.WellFormed d → (response.layout d).read r inside = response.read r inside
  | .doNothing, _ => rfl
  | .doUpdate assignments filter, h => by
    simp [ConflictResponse.layout, ConflictResponse.read,
      Assignment.readEach_layouts hfits inside assignments h.1,
      Expr.read?_layout hfits inside filter h.2]
termination_by structural response => response

/-- Reading the layout of an ON CONFLICT clause is reading the clause. -/
theorem ConflictClause.read_layout (hfits : r.Fits d) (inside : Bool) :
    (conflict : ConflictClause) →
    conflict.WellFormed d → (conflict.layout d).read r inside = conflict.read r inside
  | ⟨target, response⟩, h => by
    simp only [ConflictClause.layout, ConflictClause.read, read_append, read_text,
      ConflictResponse.read_layout hfits inside response h.2]
    split <;> simp [hfits.text_empty]
termination_by structural conflict => conflict

theorem ConflictClause.read?_layout (hfits : r.Fits d) (inside : Bool) :
    (conflict : Option ConflictClause) →
    ConflictClause.WellFormed? d conflict →
    (ConflictClause.layout? d conflict).read r inside = ConflictClause.read? r inside conflict
  | none, _ => rfl
  | some present, h => ConflictClause.read_layout hfits inside present h
termination_by structural conflict => conflict

/-- Values that fit their columns are read in pairs with them, and none is lost. -/
theorem NewValues.read_layout (hfits : r.Fits d) (columns : List Column) : (values : NewValues) →
    values.FitColumns columns.length → values.WellFormed d →
    (values.layout d columns).read r true = values.read r columns
  | .each values, hfit, h => by
    have hlength : (Expr.scalarLayouts d values).length = columns.length :=
      (Expr.length_scalarLayouts values).trans hfit
    simp [NewValues.layout, NewValues.read, Assignment.read_listLayout_zip r true _ _ hlength,
      Expr.readEach_scalarLayouts hfits true values h]
  | .fromQuery source, _, h => by
    simp [NewValues.layout, NewValues.read, Assignment.read_queryLayout hfits,
      Statement.read_layout hfits true source h]
  | .queryThenEach source rest, hfit, h => by
    have hlength := Expr.length_scalarLayouts_eq_drop (d := d) hfit.1
    simp [NewValues.layout, NewValues.read, Assignment.read_queryLayout hfits,
      Assignment.read_listLayout_zip r true _ _ hlength,
      Expr.readEach_scalarLayouts hfits true rest h.2, Statement.read_layout hfits true source h.1]
termination_by structural values => values

/-- Reading the layout of the rows of an INSERT is reading the rows. -/
theorem NewRows.read_layout (hfits : r.Fits d) : (rows : NewRows) → rows.WellFormed d →
    (rows.layout d).read r true = rows.read r
  | .defaults, _ => rfl
  | .listed rows, h => by
    simp [NewRows.layout, NewRows.read, Expr.readRows_layouts hfits true rows h]
  | .fromQuery source, h => by
    simp [NewRows.layout, NewRows.read, Statement.read_layout hfits true source h]
termination_by structural rows => rows

/-- A SELECT is read in the order of its text, not in the one its relations are met in. -/
theorem Select.read_layout (hfits : r.Fits d) (inside : Bool) : (select : Select) →
    select.WellFormed d →
    (select.layout d).read r inside = select.read r
  | ⟨ctes, distinct, columns, sources, filter, grouping, having, ordering, limit, offset⟩, h => by
    obtain ⟨hctes, hcolumns, hsources, hfilter, hgrouping, hhaving, hordering⟩ := h
    have hselected : (if columns.isEmpty = true then Layout.text "*"
          else commaSeparated (ResultItem.layouts d columns)).read r true =
        if columns.isEmpty then r.text "*"
          else r.commaSeparated (ResultItem.readEach r true columns) := by
      rw [← ResultItem.readEach_layouts hfits true columns hcolumns]
      split <;> simp
    simp only [Select.layout, Select.read, Layout.read, read_append]
    cases r.order <;> simp [-List.isEmpty_iff, hselected, Cte.read_listLayout,
      Cte.readEach_layouts hfits true ctes hctes,
      RowSource.readEach_layouts hfits true sources hsources,
      Expr.read?_layout hfits true filter hfilter,
      Expr.readEach_layouts hfits true grouping hgrouping,
      Expr.read?_layout hfits true having hhaving,
      OrderTerm.readEach_layouts hfits true ordering hordering,
      hfits.bounds_eq]
termination_by structural select => select

/-- An UPDATE is read in the order of its text, although its target is met last. -/
theorem Update.read_layout (hfits : r.Fits d) (inside : Bool) : (update : Update) →
    update.WellFormed d →
    (update.layout d).read r inside = update.read r
  | ⟨ctes, table, columns, values, sources, filter, returning⟩, h => by
    obtain ⟨hfit, hctes, -, -, hvalues, hsources, hfilter, -, hreturning⟩ := h
    simp only [Update.layout, Update.read, Layout.read, read_append, read_require]
    cases r.order <;> simp [Cte.read_listLayout, Cte.readEach_layouts hfits true ctes hctes,
      RowSource.readEach_layouts hfits true sources hsources,
      Expr.read?_layout hfits true filter hfilter,
      ResultItem.readEach_layouts hfits true returning hreturning, Table.read_layout hfits,
      NewValues.read_layout hfits columns values hfit.2.2 hvalues]
termination_by structural update => update

/-- An INSERT is read in the order of its text, although its target is met last. -/
theorem Insert.read_layout (hfits : r.Fits d) (inside : Bool) : (insert : Insert) →
    insert.WellFormed d →
    (insert.layout d).read r inside = insert.read r
  | ⟨ctes, table, columns, rows, conflict, returning⟩, h => by
    obtain ⟨-, hctes, -, -, hrows, hconflict, -, hreturning⟩ := h
    have htarget : (if d.aliasesInsert then table.layout d else table.qualifiedName).read r true =
        table.readName r ++ r.targetAlias table.id := by
      rw [hfits.targetAlias_eq]
      split <;> simp [Table.read_layout hfits, Table.read]
    have hnamed : (if columns.isEmpty then Layout.nothing
          else Layout.text " (" ++ Column.listLayout d "" columns ")").read r true =
        if columns.isEmpty then []
          else r.text " (" ++ r.commaSeparated (columns.map (Column.readBare r)) ++ r.text ")" := by
      split <;> simp [hfits.text_empty]
    simp only [Insert.layout, Insert.read, Layout.read, read_append, read_require]
    cases r.order <;> simp [-List.isEmpty_iff, hnamed, htarget, Cte.read_listLayout,
      Cte.readEach_layouts hfits true ctes hctes,
      ResultItem.readEach_layouts hfits true returning hreturning,
      NewRows.read_layout hfits rows hrows,
      ConflictClause.read?_layout hfits true conflict hconflict]
termination_by structural insert => insert

/-- A DELETE is read in the order of its text, although its target is met last. -/
theorem Delete.read_layout (hfits : r.Fits d) (inside : Bool) : (delete : Delete) →
    delete.WellFormed d →
    (delete.layout d).read r inside = delete.read r
  | ⟨ctes, table, sources, filter, returning⟩, h => by
    obtain ⟨hctes, -, hsources, hfilter, -, hreturning⟩ := h
    simp only [Delete.layout, Delete.read, Layout.read, read_append, read_require]
    cases r.order <;> simp [Cte.read_listLayout, Cte.readEach_layouts hfits true ctes hctes,
      RowSource.readEach_layouts hfits true sources hsources,
      Expr.read?_layout hfits true filter hfilter,
      ResultItem.readEach_layouts hfits true returning hreturning, Table.read_layout hfits]
termination_by structural delete => delete

/-- Reading the layout of a statement is reading the statement. -/
theorem Statement.read_layout (hfits : r.Fits d) (inside : Bool) : (statement : Statement) →
    statement.WellFormed d → (statement.layout d).read r inside = statement.read r
  | .select statement, h => Select.read_layout hfits inside statement h
  | .update statement, h => Update.read_layout hfits inside statement h
  | .insert statement, h => Insert.read_layout hfits inside statement h
  | .delete statement, h => Delete.read_layout hfits inside statement h
termination_by structural statement => statement

end

/-- What a reading takes from the layout of a node is what it takes from the node. -/
theorem Node.readAt_layout (hfits : r.Fits d) (inside : Bool) (node : Node)
    (haccepted : (node.layout d).Accepted d) :
    (node.layout d).read r inside = node.readAt r inside := by
  have hformed := node.accepted_layout_iff.mp haccepted
  cases node with
  | statement tree => exact Statement.read_layout hfits inside tree hformed
  | expr tree => exact Expr.read_layout hfits inside tree hformed
  | item tree => exact ResultItem.read_layout hfits inside tree hformed
  | order tree => exact OrderTerm.read_layout hfits inside tree hformed
  | assignment tree => exact Assignment.read_layout hfits inside tree hformed
  | source tree => exact RowSource.read_layout hfits inside tree hformed
  | conflict tree => exact ConflictClause.read_layout hfits inside tree hformed

theorem Node.read_layout (hfits : r.Fits d) (node : Node) (haccepted : (node.layout d).Accepted d) :
    (node.layout d).read r false = node.read r := by
  rw [Node.readAt_layout hfits false node haccepted, Node.read_eq_readAt]

end BoundSql
