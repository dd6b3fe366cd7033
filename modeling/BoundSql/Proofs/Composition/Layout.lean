import BoundSql.Proofs.Composition.Basic
import BoundSql.Render

/-!
# The layout of a tree, part by part

The layouts of a tree under a dialect and a wider one are composed (`Node.composed_layout`). What an
induction on `Layout.Composed` shows holds of every tree: that all of its texts are plain, that it
closes the parentheses that it opens, and that no text but the operator `%` depends on how
placeholders are written.
-/

set_option autoImplicit false
set_option relaxedAutoImplicit false

namespace BoundSql

open Layout

variable {d e : Dialect}

/-! ### Names -/

/-- A bare column is composed alike under any two dialects. -/
theorem Column.composed_bare (column : Column) : Composed d e 0 0 column.bare column.bare := by
  unfold Column.bare
  split
  · exact .phrase "*" (by decide)
  · exact .identifier column.name

section Names

variable (hwidens : d.Widens e)

include hwidens

/-- A column that the first dialect writes passes the check of the wider one. -/
theorem Column.composed_layout (column : Column) :
    Composed d e 0 0 (column.layout d) (column.layout e) :=
  ((Composed.require hwidens.columnError?_eq_none).append (.qualifier column.relation)).append
    column.composed_bare

/-- A list of columns leads from the depth in front of it to the one behind it. -/
theorem Column.composed_listLayout {lead close : String} {before middle after : Nat}
    (hlead : Text.Sound before middle lead.toList) (columns : List Column)
    (hclose : Text.Sound middle after close.toList) :
    Composed d e before after (Column.listLayout d lead columns close)
      (Column.listLayout e lead columns close) := by
  refine .checkedList hwidens.columnsError?_eq_none hlead ?_ hclose
  rw [List.forall_mem_map]
  exact fun column _ ↦ column.composed_bare

/-- The named columns of an INSERT and the target of an ON CONFLICT clause stand in parentheses if
there are any. -/
theorem Column.composed_optionalList (columns : List Column) :
    Composed d e 0 0
      (if columns.isEmpty then nothing else text " (" ++ Column.listLayout d "" columns ")")
      (if columns.isEmpty then nothing else text " (" ++ Column.listLayout e "" columns ")") := by
  have hopen : Text.Sound 0 1 " (".toList := by decide
  have hclose : Text.Sound 1 0 ")".toList := by decide
  split
  · exact .nothing
  · exact .append (.text hopen)
      (Column.composed_listLayout hwidens (Text.sound_nil 1) columns hclose)

/-- A list of names leads from the depth in front of it to the one behind it. -/
theorem Dialect.composed_namesLayout {lead close : String} {before middle after : Nat}
    (hlead : Text.Sound before middle lead.toList) (names : List String)
    (hclose : Text.Sound middle after close.toList) :
    Composed d e before after (d.namesLayout lead names close)
      (e.namesLayout lead names close) := by
  refine .checkedList hwidens.namesError?_eq_none hlead ?_ hclose
  rw [List.forall_mem_map]
  exact fun name _ ↦ .identifier name

/-- The wider dialect has RETURNING where the first one has it. -/
theorem ResultItem.composed_returningCheck (items : List ResultItem) :
    Composed d e 0 0 (require (ResultItem.returningError? d items))
      (require (ResultItem.returningError? e items)) :=
  .require hwidens.returningError?_eq_none

/-- A query that is assigned to columns is composed, in parentheses of its own. -/
theorem Assignment.composed_queryLayout (columns : List Column) {query other : Layout}
    (hquery : Composed d e 0 0 query other) :
    Composed d e 0 0 (Assignment.queryLayout d columns query)
      (Assignment.queryLayout e columns other) := by
  unfold Assignment.queryLayout
  have hequals : Composed d e 0 0 (text " = ") (text " = ") := .phrase " = " (by decide)
  refine (Composed.append ?_ hequals).append (.parenthesized hquery)
  split
  · exact Column.composed_listLayout hwidens (Text.sound_nil 0) columns (Text.sound_nil 0)
  · have hopen : Text.Sound 0 1 "(".toList := by decide
    have hclose : Text.Sound 1 0 ")".toList := by decide
    exact Column.composed_listLayout hwidens hopen columns hclose

end Names

/-- The name of a table is composed alike under any two dialects. -/
theorem Table.composed_qualifiedName (table : Table) :
    Composed d e 0 0 table.qualifiedName table.qualifiedName := by
  refine .append ?_ (.identifier table.name)
  cases table.schema with
  | none => exact .nothing
  | some schema => exact .append (.identifier schema) (.phrase "." (by decide))

/-- The alias of a table stands behind the same text under the wider dialect. -/
theorem Table.composed_layout (hwidens : d.Widens e) (table : Table) :
    Composed d e 0 0 (table.layout d) (table.layout e) :=
  table.composed_qualifiedName.append (.tableAlias hwidens table.id)

/-- A common table expression is named alike under any two dialects. -/
theorem Cte.composed_nameLayout (id : Identity) (name : Option String) :
    Composed d e 0 0 (Cte.nameLayout id name) (Cte.nameLayout id name) := by
  cases name with
  | none => exact .relationAlias (Text.sound_nil 0) id
  | some explicit => exact .identifier explicit

/-- A WITH list is composed if each of its definitions is. -/
theorem Cte.composed_listLayout (recursive : Bool) {definitions others : List Layout}
    (hdefinitions : List.Forall₂ (Composed d e 0 0) definitions others) :
    Composed d e 0 0 (Cte.listLayout recursive definitions) (Cte.listLayout recursive others) := by
  cases hdefinitions with
  | nil => exact .nothing
  | cons hfirst hrest =>
    have hkeyword :
        Text.Sound 0 0 (if recursive then "WITH RECURSIVE " else "WITH ").toList := by
      cases recursive <;> decide
    have hlist := Composed.commaSeparated (hrest.cons hfirst)
    exact (Composed.append (.text hkeyword) hlist).append (.phrase " " (by decide))

/-- Assignments are composed if each of the assigned values is. -/
theorem Assignment.composed_listLayout_zip (columns : List Column) {values others : List Layout}
    (hvalues : List.Forall₂ (Composed d e 0 0) values others) :
    List.Forall₂ (Composed d e 0 0) (Assignment.listLayout (columns.zip values))
      (Assignment.listLayout (columns.zip others)) := by
  induction columns generalizing values others with
  | nil => exact .nil
  | cons assigned columns ih =>
    cases hvalues with
    | nil => exact .nil
    | cons hfirst hrest =>
      have hassigned : Composed d e 0 0 (assigned.bare ++ text " = ")
          (assigned.bare ++ text " = ") := assigned.composed_bare.append (.phrase " = " (by decide))
      exact .cons (hassigned.append hfirst) (ih hrest)

/-- The word in front of the candidates of an IN. -/
theorem Layout.composed_membership (negated : Bool) :
    Composed d e 0 0 (text (if negated then " NOT IN " else " IN "))
      (text (if negated then " NOT IN " else " IN ")) := by
  cases negated <;> exact .phrase _ (by decide)

/-! ### Expressions, sources of rows and statements -/

-- Induction on the tree. Every construct closes the parentheses that it opens around a part of it,
-- so that all parts are composed from outside of all parentheses to there.
mutual

/-- An expression is composed. The parentheses that it opens are its own, and it closes them. -/
theorem Expr.composed_layout (hwidens : d.Widens e) : (expr : Expr) →
    Composed d e 0 0 (expr.layout d) (expr.layout e)
  | .column reference => Column.composed_layout hwidens reference
  | .literal value => .placeholder value
  | .star => .phrase "*"
  | .defaultValue => .phrase "DEFAULT"
  | .excluded column => .append (.phrase "EXCLUDED.") (.identifier column)
  | .unary op operand => by
    have hoperand := Expr.composed_layout hwidens operand
    apply Composed.parenthesized
    cases op with
    | isNull => exact hoperand.append (.phrase " IS NULL")
    | isNotNull => exact hoperand.append (.phrase " IS NOT NULL")
    | _ => exact .append (.phrase _) hoperand
  | .binary op left right => by
    have hleft := (Expr.composed_layout hwidens left).append (.operator op)
    exact .parenthesized (hleft.append (Expr.composed_layout hwidens right))
  | .connected connective operands => by
    have hoperands := Expr.composed_layouts hwidens operands
    have hseparator : Text.Sound 0 0 (" " ++ connective.spelling ++ " ").toList := by
      cases connective <;> decide
    simp only [Expr.layout]
    generalize Expr.layouts d operands = layouts, Expr.layouts e operands = others
      at hoperands ⊢
    cases hoperands with
    | nil => exact .fail _ _
    | cons hfirst hrest =>
      cases hrest with
      | nil => exact hfirst
      | cons hsecond hlater =>
        exact .parenthesized (.separated hseparator (.cons hfirst (.cons hsecond hlater)))
  | .call function distinct arguments => by
    have harguments := Composed.commaSeparated (Expr.composed_layouts hwidens arguments)
    have hdistinct : Text.Sound 0 0 (if distinct then "DISTINCT " else "").toList := by
      cases distinct <;> decide
    exact .append (.function function) (.parenthesized (.append (.text hdistinct) harguments))
  | .collate operand collation => by
    have hcollation : d.nameError? collation = none → e.nameError? collation = none :=
      hwidens.nameError?_eq_none
    have hoperand := (Composed.require hcollation).append (Expr.composed_layout hwidens operand)
    exact (hoperand.append (.phrase " COLLATE ")).append (.identifier collation)
  | .subquery query => .parenthesized (Statement.composed_layout hwidens query)
  | .inList tested negated candidates => by
    have htested := (Expr.composed_layout hwidens tested).append
      (Layout.composed_membership negated)
    have hcandidates := Expr.composed_layouts hwidens candidates
    refine .parenthesized (htested.append ?_)
    generalize Expr.layouts d candidates = layouts, Expr.layouts e candidates = others
      at hcandidates ⊢
    cases hcandidates with
    | nil => exact .fail _ _
    | cons hfirst hrest => exact .parenthesized (.commaSeparated (.cons hfirst hrest))
  | .inQuery tested negated query => by
    have htested := (Expr.composed_layout hwidens tested).append
      (Layout.composed_membership negated)
    exact .parenthesized ((htested.append (.require id)).append
      (.parenthesized (Statement.composed_layout hwidens query)))
  | .between tested negated low high => by
    have hkeyword :
        Text.Sound 0 0 (if negated then " NOT BETWEEN " else " BETWEEN ").toList := by
      cases negated <;> decide
    have hlow := ((Expr.composed_layout hwidens tested).append (.text hkeyword)).append
      (Expr.composed_layout hwidens low)
    exact .parenthesized
      ((hlow.append (.phrase " AND ")).append (Expr.composed_layout hwidens high))
  | .cast operand typeName => .cast (Expr.composed_layout hwidens operand) typeName
  | .caseWhen branches otherwise => by
    have hotherwise := Composed.clause " ELSE " (Expr.composed_layout? hwidens otherwise)
    exact ((((Composed.require id).append (.phrase "CASE")).append
      (Expr.composed_branchesLayout hwidens branches)).append hotherwise).append (.phrase " END")
  | .existsQuery query =>
    .parenthesized
      (.append (.phrase "EXISTS ") (.parenthesized (Statement.composed_layout hwidens query)))
termination_by structural expr => expr

/-- Expressions are composed one by one. -/
theorem Expr.composed_layouts (hwidens : d.Widens e) : (exprs : List Expr) →
    List.Forall₂ (Composed d e 0 0) (Expr.layouts d exprs) (Expr.layouts e exprs)
  | [] => .nil
  | first :: rest => .cons (Expr.composed_layout hwidens first) (Expr.composed_layouts hwidens rest)
termination_by structural exprs => exprs

theorem Expr.composed_layout? (hwidens : d.Widens e) : (expr : Option Expr) →
    Option.Rel (Composed d e 0 0) (Expr.layout? d expr) (Expr.layout? e expr)
  | none => .none
  | some present => .some (Expr.composed_layout hwidens present)
termination_by structural expr => expr

/-- Values are composed one by one. Their widths do not depend on the dialect. -/
theorem Expr.composed_scalarLayouts (hwidens : d.Widens e) : (exprs : List Expr) →
    List.Forall₂ (Composed d e 0 0) (Expr.scalarLayouts d exprs) (Expr.scalarLayouts e exprs)
  | [] => .nil
  | first :: rest =>
    .cons (.append (.require id) (Expr.composed_layout hwidens first))
      (Expr.composed_scalarLayouts hwidens rest)
termination_by structural exprs => exprs

/-- The branches of a CASE are composed. -/
theorem Expr.composed_branchesLayout (hwidens : d.Widens e) : (branches : List (Expr × Expr)) →
    Composed d e 0 0 (Expr.branchesLayout d branches) (Expr.branchesLayout e branches)
  | [] => .nothing
  | (condition, result) :: rest => by
    have hcondition := ((Composed.phrase " WHEN ").append
      (Expr.composed_layout hwidens condition)).append (.phrase " THEN ")
    exact (hcondition.append (Expr.composed_layout hwidens result)).append
      (Expr.composed_branchesLayout hwidens rest)
termination_by structural branches => branches

/-- Rows are composed one by one, each in parentheses of its own. -/
theorem Expr.composed_rowLayouts (hwidens : d.Widens e) : (rows : List (List Expr)) →
    List.Forall₂ (Composed d e 0 0) (Expr.rowLayouts d rows) (Expr.rowLayouts e rows)
  | [] => .nil
  | first :: rest =>
    .cons (.parenthesized (.commaSeparated (Expr.composed_layouts hwidens first)))
      (Expr.composed_rowLayouts hwidens rest)
termination_by structural rows => rows

/-- A source of rows is composed. -/
theorem RowSource.composed_layout (hwidens : d.Widens e) : (source : RowSource) →
    Composed d e 0 0 (source.layout d) (source.layout e)
  | .table source => Table.composed_layout hwidens source
  | .cte id explicit => (Cte.composed_nameLayout id explicit).append (.tableAlias hwidens id)
  | .derived id query =>
    .append (.parenthesized (Statement.composed_layout hwidens query)) (.tableAlias hwidens id)
  | .join kind left right condition => by
    have hkind : Text.Sound 0 0 (" " ++ kind.spelling ++ " ").toList := by cases kind <;> decide
    have hcondition := Composed.clause " ON " (Expr.composed_layout? hwidens condition)
    have hjoined := ((RowSource.composed_layout hwidens left).append (.text hkind)).append
      (RowSource.composed_layout hwidens right)
    exact (hjoined.append (.require id)).append hcondition
termination_by structural source => source

theorem RowSource.composed_layouts (hwidens : d.Widens e) : (sources : List RowSource) →
    List.Forall₂ (Composed d e 0 0) (RowSource.layouts d sources) (RowSource.layouts e sources)
  | [] => .nil
  | first :: rest =>
    .cons (RowSource.composed_layout hwidens first) (RowSource.composed_layouts hwidens rest)
termination_by structural sources => sources

/-- A definition is composed, its query in parentheses of its own. -/
theorem Cte.composed_layout (hwidens : d.Widens e) : (cte : Cte) →
    Composed d e 0 0 (cte.layout d) (cte.layout e)
  | ⟨id, explicit, columns, _, query⟩ => by
    have hcolumns : Composed d e 0 0
        (if columns.isEmpty then nothing else d.namesLayout " (" columns ")")
        (if columns.isEmpty then nothing else e.namesLayout " (" columns ")") := by
      have hopen : Text.Sound 0 1 " (".toList := by decide
      have hclose : Text.Sound 1 0 ")".toList := by decide
      split
      · exact .nothing
      · exact Dialect.composed_namesLayout hwidens hopen columns hclose
    have hname := (Composed.append (.visit id) (Cte.composed_nameLayout id explicit)).append
      hcolumns
    exact (hname.append (.phrase " AS ")).append
      (.parenthesized (Statement.composed_layout hwidens query))
termination_by structural cte => cte

theorem Cte.composed_layouts (hwidens : d.Widens e) : (ctes : List Cte) →
    List.Forall₂ (Composed d e 0 0) (Cte.layouts d ctes) (Cte.layouts e ctes)
  | [] => .nil
  | first :: rest => .cons (Cte.composed_layout hwidens first) (Cte.composed_layouts hwidens rest)
termination_by structural ctes => ctes

/-- A result is composed. -/
theorem ResultItem.composed_layout (hwidens : d.Widens e) : (item : ResultItem) →
    Composed d e 0 0 (item.layout d) (item.layout e)
  | ⟨expr, none⟩ => (Expr.composed_layout hwidens expr).append .nothing
  | ⟨expr, some resultName⟩ =>
    (Expr.composed_layout hwidens expr).append (.append (.phrase " AS ") (.identifier resultName))
termination_by structural item => item

theorem ResultItem.composed_layouts (hwidens : d.Widens e) : (items : List ResultItem) →
    List.Forall₂ (Composed d e 0 0) (ResultItem.layouts d items) (ResultItem.layouts e items)
  | [] => .nil
  | first :: rest =>
    .cons (ResultItem.composed_layout hwidens first) (ResultItem.composed_layouts hwidens rest)
termination_by structural items => items

/-- A sort key is composed. -/
theorem OrderTerm.composed_layout (hwidens : d.Widens e) : (term : OrderTerm) →
    Composed d e 0 0 (term.layout d) (term.layout e)
  | ⟨expr, direction, nulls⟩ =>
    ((Expr.composed_layout hwidens expr).append
      (.wordClause direction fun chosen ↦ by cases chosen <;> decide)).append
        (.wordClause nulls fun chosen ↦ by cases chosen <;> decide)
termination_by structural term => term

theorem OrderTerm.composed_layouts (hwidens : d.Widens e) : (terms : List OrderTerm) →
    List.Forall₂ (Composed d e 0 0) (OrderTerm.layouts d terms) (OrderTerm.layouts e terms)
  | [] => .nil
  | first :: rest =>
    .cons (OrderTerm.composed_layout hwidens first) (OrderTerm.composed_layouts hwidens rest)
termination_by structural terms => terms

/-- An assignment is composed. -/
theorem Assignment.composed_layout (hwidens : d.Widens e) : (assignment : Assignment) →
    Composed d e 0 0 (assignment.layout d) (assignment.layout e)
  | ⟨assigned, expr⟩ => by
    have hassigned : Composed d e 0 0 (assigned.bare ++ text " = ")
        (assigned.bare ++ text " = ") := assigned.composed_bare.append (.phrase " = ")
    exact (hassigned.append (.require id)).append (Expr.composed_layout hwidens expr)
termination_by structural assignment => assignment

theorem Assignment.composed_layouts (hwidens : d.Widens e) : (assignments : List Assignment) →
    List.Forall₂ (Composed d e 0 0) (Assignment.layouts d assignments)
      (Assignment.layouts e assignments)
  | [] => .nil
  | first :: rest =>
    .cons (Assignment.composed_layout hwidens first) (Assignment.composed_layouts hwidens rest)
termination_by structural assignments => assignments

/-- What is done on a conflict is composed. -/
theorem ConflictResponse.composed_layout (hwidens : d.Widens e) : (response : ConflictResponse) →
    Composed d e 0 0 (response.layout d) (response.layout e)
  | .doNothing => .phrase " DO NOTHING"
  | .doUpdate assignments filter => by
    have hassigned :=
      Composed.listClause " DO UPDATE SET " (Assignment.composed_layouts hwidens assignments)
    have hfilter := Composed.clause " WHERE " (Expr.composed_layout? hwidens filter)
    exact .append (.atomic hassigned) (.atomic hfilter)
termination_by structural response => response

/-- An ON CONFLICT clause is composed, its target in parentheses of its own. -/
theorem ConflictClause.composed_layout (hwidens : d.Widens e) : (conflict : ConflictClause) →
    Composed d e 0 0 (conflict.layout d) (conflict.layout e)
  | ⟨target, response⟩ => by
    have htarget := (Composed.phrase " ON CONFLICT").append
      (Column.composed_optionalList hwidens target)
    exact htarget.append (ConflictResponse.composed_layout hwidens response)
termination_by structural conflict => conflict

theorem ConflictClause.composed_layout? (hwidens : d.Widens e) :
    (conflict : Option ConflictClause) →
    Composed d e 0 0 (ConflictClause.layout? d conflict) (ConflictClause.layout? e conflict)
  | none => .nothing
  | some present => ConflictClause.composed_layout hwidens present
termination_by structural conflict => conflict

/-- The values of an UPDATE are composed beside its columns. -/
theorem NewValues.composed_layout (hwidens : d.Widens e) (columns : List Column) :
    (values : NewValues) →
    Composed d e 0 0 (values.layout d columns) (values.layout e columns)
  | .each values =>
    .commaSeparated
      (Assignment.composed_listLayout_zip columns (Expr.composed_scalarLayouts hwidens values))
  | .fromQuery source =>
    Assignment.composed_queryLayout hwidens columns (Statement.composed_layout hwidens source)
  | .queryThenEach source rest =>
    .commaSeparated (.cons
      (Assignment.composed_queryLayout hwidens _ (Statement.composed_layout hwidens source))
      (Assignment.composed_listLayout_zip _ (Expr.composed_scalarLayouts hwidens rest)))
termination_by structural values => values

/-- The rows of an INSERT are composed. -/
theorem NewRows.composed_layout (hwidens : d.Widens e) : (rows : NewRows) →
    Composed d e 0 0 (rows.layout d) (rows.layout e)
  | .defaults => .phrase " DEFAULT VALUES"
  | .listed rows =>
    .append (.phrase " VALUES ") (.commaSeparated (Expr.composed_rowLayouts hwidens rows))
  | .fromQuery source => .append (.phrase " ") (Statement.composed_layout hwidens source)
termination_by structural rows => rows

/-- A SELECT is composed. Its bounds are the same under the wider dialect. -/
theorem Select.composed_layout (hwidens : d.Widens e) : (select : Select) →
    Composed d e 0 0 (select.layout d) (select.layout e)
  | ⟨ctes, distinct, columns, sources, filter, grouping, having, ordering, limit, offset⟩ => by
    have hctes := Cte.composed_listLayout (ctes.any Cte.recursive)
      (Cte.composed_layouts hwidens ctes)
    have hsources := Composed.listClause " FROM " (RowSource.composed_layouts hwidens sources)
    have hfilter := Composed.clause " WHERE " (Expr.composed_layout? hwidens filter)
    have hgrouping := Composed.listClause " GROUP BY " (Expr.composed_layouts hwidens grouping)
    have hhaving := Composed.clause " HAVING " (Expr.composed_layout? hwidens having)
    have hordering := Composed.listClause " ORDER BY " (OrderTerm.composed_layouts hwidens ordering)
    have hkeyword :
        Text.Sound 0 0 (if distinct then "SELECT DISTINCT " else "SELECT ").toList := by
      cases distinct <;> decide
    have hselected : Composed d e 0 0
        (if columns.isEmpty then text "*" else commaSeparated (ResultItem.layouts d columns))
        (if columns.isEmpty then text "*" else commaSeparated (ResultItem.layouts e columns)) := by
      have hcolumns := ResultItem.composed_layouts hwidens columns
      split
      · exact .phrase "*"
      · exact .commaSeparated hcolumns
    have hbody := ((((hsources.append hfilter).append hgrouping).append hhaving).append
      hordering).append (.bounds hwidens limit offset)
    exact .scope (.frame hctes hbody (.append (.text hkeyword) hselected) .nothing)
termination_by structural select => select

/-- An UPDATE is composed. -/
theorem Update.composed_layout (hwidens : d.Widens e) : (update : Update) →
    Composed d e 0 0 (update.layout d) (update.layout e)
  | ⟨ctes, table, columns, values, sources, filter, returning⟩ => by
    have hctes := Cte.composed_listLayout (ctes.any Cte.recursive)
      (Cte.composed_layouts hwidens ctes)
    have hsources := Composed.listClause " FROM " (RowSource.composed_layouts hwidens sources)
    have hfilter := Composed.clause " WHERE " (Expr.composed_layout? hwidens filter)
    have hreturning := Composed.listClause " RETURNING "
      (ResultItem.composed_layouts hwidens returning)
    have hassigned : Composed d e 0 0 _ _ :=
      .frame .nothing hsources (NewValues.composed_layout hwidens columns values) .nothing
    have hbody := ((hassigned.append hfilter).append
      (ResultItem.composed_returningCheck hwidens returning)).append hreturning
    have htarget := ((Composed.phrase "UPDATE ").append
      (Table.composed_layout hwidens table)).append (.phrase " SET ")
    exact .append (.require id) (.scope (.frame hctes hbody htarget .nothing))
termination_by structural update => update

/-- An INSERT is composed. Its target has an alias under both dialects or under none. -/
theorem Insert.composed_layout (hwidens : d.Widens e) : (insert : Insert) →
    Composed d e 0 0 (insert.layout d) (insert.layout e)
  | ⟨ctes, table, columns, rows, conflict, returning⟩ => by
    have hctes := Cte.composed_listLayout (ctes.any Cte.recursive)
      (Cte.composed_layouts hwidens ctes)
    have hreturning := Composed.listClause " RETURNING "
      (ResultItem.composed_layouts hwidens returning)
    have hrows := (NewRows.composed_layout hwidens rows).append
      (ConflictClause.composed_layout? hwidens conflict)
    have hbody := (hrows.append
      (ResultItem.composed_returningCheck hwidens returning)).append hreturning
    have htarget : Composed d e 0 0
        (if d.aliasesInsert then table.layout d else table.qualifiedName)
        (if e.aliasesInsert then table.layout e else table.qualifiedName) := by
      rw [hwidens.aliasesInsert_eq]
      split
      · exact Table.composed_layout hwidens table
      · exact Table.composed_qualifiedName table
    exact .append (.require hwidens.insertError?_eq_none) (.scope
      (.frame hctes hbody (.append (.phrase "INSERT INTO ") htarget)
        (Column.composed_optionalList hwidens columns)))
termination_by structural insert => insert

/-- A DELETE is composed. -/
theorem Delete.composed_layout (hwidens : d.Widens e) : (delete : Delete) →
    Composed d e 0 0 (delete.layout d) (delete.layout e)
  | ⟨ctes, table, sources, filter, returning⟩ => by
    have hctes := Cte.composed_listLayout (ctes.any Cte.recursive)
      (Cte.composed_layouts hwidens ctes)
    have hsources := Composed.listClause " USING " (RowSource.composed_layouts hwidens sources)
    have hfilter := Composed.clause " WHERE " (Expr.composed_layout? hwidens filter)
    have hreturning := Composed.listClause " RETURNING "
      (ResultItem.composed_layouts hwidens returning)
    have hbody := ((hsources.append hfilter).append
      (ResultItem.composed_returningCheck hwidens returning)).append hreturning
    exact .scope (.frame hctes hbody
      (.append (.phrase "DELETE FROM ") (Table.composed_layout hwidens table)) .nothing)
termination_by structural delete => delete

/-- A statement is composed. -/
theorem Statement.composed_layout (hwidens : d.Widens e) : (statement : Statement) →
    Composed d e 0 0 (statement.layout d) (statement.layout e)
  | .select statement => Select.composed_layout hwidens statement
  | .update statement => Update.composed_layout hwidens statement
  | .insert statement => Insert.composed_layout hwidens statement
  | .delete statement => Delete.composed_layout hwidens statement
termination_by structural statement => statement

end

/-- The layouts of a node under a dialect and a wider one are composed. -/
theorem Node.composed_layout (hwidens : d.Widens e) (node : Node) :
    Composed d e 0 0 (node.layout d) (node.layout e) := by
  cases node with
  | statement tree => exact Statement.composed_layout hwidens tree
  | expr tree => exact Expr.composed_layout hwidens tree
  | item tree => exact ResultItem.composed_layout hwidens tree
  | order tree => exact OrderTerm.composed_layout hwidens tree
  | assignment tree => exact Assignment.composed_layout hwidens tree
  | source tree => exact RowSource.composed_layout hwidens tree
  | conflict tree => exact ConflictClause.composed_layout hwidens tree

end BoundSql
