import BoundSql.Proofs.Nesting.Statements
import BoundSql.Proofs.Reading.Tree
import BoundSql.Proofs.WellFormed.Tree

/-!
# Statements stand whole in the text around them

A statement inside of a well-formed node is well formed itself, and it is read there as it is read
alone (`Node.stands_of_mem_statements`): no clause around it adds to it, leaves a part of it out, or
tears it apart. This holds in the order of the text.
-/

set_option autoImplicit false
set_option relaxedAutoImplicit false

namespace BoundSql

variable {α : Type}

/-- A statement of which every part is as the dialect asks, and that is read in one piece. -/
structure Statement.Stands (d : Dialect) (r : Reading α) (inner : Statement) (whole : List α) :
    Prop where
  /-- Every part of the statement is as the dialect asks. -/
  formed : inner.WellFormed d
  /-- The statement is read in one piece. -/
  within : inner.read r <:+: whole

variable {d : Dialect} {r : Reading α} {inner : Statement}

namespace Statement.Stands

variable {whole earlier later : List α} {items : List (List α)}

/-- What is read in front of a text leaves a statement in it whole. -/
theorem behind (h : inner.Stands d r whole) : inner.Stands d r (earlier ++ whole) :=
  ⟨h.formed, h.within.trans (List.suffix_append earlier whole).isInfix⟩

/-- What is read behind a text leaves a statement in it whole. -/
theorem before (h : inner.Stands d r whole) : inner.Stands d r (whole ++ later) :=
  ⟨h.formed, h.within.trans (List.prefix_append whole later).isInfix⟩

/-- Parentheses around a text leave a statement in it whole. -/
theorem parenthesized (h : inner.Stands d r whole) : inner.Stands d r (r.parenthesized whole) :=
  h.behind.before

/-- A statement that stands in a member of a list stands in the list. -/
theorem separated (h : inner.Stands d r whole) (separator : String) (hitem : whole ∈ items) :
    inner.Stands d r (r.separated separator items) := by
  induction items with
  | nil => cases hitem
  | cons first rest ih =>
    cases rest with
    | nil =>
      obtain rfl := List.mem_singleton.mp hitem
      exact h
    | cons second others =>
      rcases List.mem_cons.mp hitem with rfl | hrest
      · exact h.before.before
      · exact (ih hrest).behind

/-- A statement that stands in the body of a clause stands in the clause. -/
theorem clause {body : Option (List α)} (h : inner.Stands d r whole) (keyword : String)
    (hbody : whole ∈ body) : inner.Stands d r (r.clause keyword body) := by
  obtain rfl := Option.mem_def.mp hbody
  exact h.behind

/-- A statement that stands in a member of a list clause stands in the clause. -/
theorem listClause (h : inner.Stands d r whole) (keyword : String) (hitem : whole ∈ items) :
    inner.Stands d r (r.listClause keyword items) := by
  have hlisted : items.isEmpty = false := List.isEmpty_eq_false_iff_exists_mem.mpr ⟨whole, hitem⟩
  rw [Reading.listClause, hlisted]
  exact (h.separated ", " hitem).behind

/-- A statement that stands in a definition stands in the WITH list. -/
theorem cteList (h : inner.Stands d r whole) (recursive : Bool) (hitem : whole ∈ items) :
    inner.Stands d r (Cte.readList r recursive items) := by
  have hlisted : items.isEmpty = false := List.isEmpty_eq_false_iff_exists_mem.mpr ⟨whole, hitem⟩
  rw [Cte.readList, hlisted]
  exact (h.separated ", " hitem).behind.before

/-- A value that stands in a list of values stands in the list of assignments, whatever the columns
are. -/
theorem pairs (h : inner.Stands d r whole) (hitem : whole ∈ items) (columns : List Column) :
    ∃ pair ∈ Assignment.readPairs r columns items, inner.Stands d r pair := by
  induction columns generalizing items with
  | nil =>
    refine ⟨whole, ?_, h⟩
    rw [Assignment.readPairs]
    exact hitem
  | cons assigned columns ih =>
    cases items with
    | nil => cases hitem
    | cons first rest =>
      rw [Assignment.readPairs]
      rcases List.mem_cons.mp hitem with rfl | hrest
      · exact ⟨_, List.mem_cons_self, h.behind⟩
      · obtain ⟨pair, hpair, hstands⟩ := ih hrest
        exact ⟨pair, List.mem_cons_of_mem _ hpair, hstands⟩

/-- A query that is assigned to columns stands in the assignment. -/
theorem query (h : inner.Stands d r whole) (columns : List Column) :
    inner.Stands d r (Assignment.readQuery r columns whole) :=
  h.parenthesized.behind

end Statement.Stands

/-- Values that fit their columns are well formed as expressions. -/
theorem Expr.ScalarsWellFormed.all {values : List Expr} (h : Expr.ScalarsWellFormed d values) :
    Expr.AllWellFormed d values := by
  induction values with
  | nil => trivial
  | cons first rest ih => exact ⟨h.1.2, ih h.2⟩

-- Induction on the tree. What stands in one part of a text stands in all of it, so each case finds
-- the part that holds the statement and adds what is read in front of it and behind it.
mutual

/-- A statement inside of an expression stands whole in its text. -/
theorem Expr.stands (horder : r.order = .writing) (inside : Bool) : (expr : Expr) →
    inner ∈ expr.statements →
    expr.WellFormed d → inner.Stands d r (expr.read r inside)
  | .column _, hinner, _ | .literal _, hinner, _ | .star, hinner, _ | .defaultValue, hinner, _
  | .excluded _, hinner, _ => nomatch hinner
  | .unary op operand, hinner, hformed => by
    have hoperand := Expr.stands horder inside operand hinner hformed
    rw [Expr.read]
    split
    · exact hoperand.before.parenthesized
    · exact hoperand.behind.parenthesized
  | .binary op left right, hinner, hformed => by
    rcases List.mem_append.mp hinner with hleft | hright
    · exact (Expr.stands horder inside left hleft hformed.1).before.before.parenthesized
    · exact (Expr.stands horder inside right hright hformed.2).behind.parenthesized
  | .connected connective operands, hinner, hformed => by
    obtain ⟨part, hpart, hstands⟩ := Expr.standsEach horder inside operands hinner hformed.2
    rw [Expr.read]
    split
    · rename_i hnone
      rw [hnone] at hpart
      cases hpart
    · rename_i only honly
      rw [honly] at hpart
      obtain rfl := List.mem_singleton.mp hpart
      exact hstands
    · exact (hstands.separated _ hpart).parenthesized
  | .call function distinct arguments, hinner, hformed => by
    obtain ⟨part, hpart, hstands⟩ := Expr.standsEach horder inside arguments hinner hformed.2
    exact (hstands.separated ", " hpart).behind.parenthesized.behind
  | .collate operand collation, hinner, hformed =>
    (Expr.stands horder inside operand hinner hformed.1).before.before
  | .subquery query, hinner, hformed => (Statement.stands horder query hinner hformed).parenthesized
  | .inList tested negated candidates, hinner, hformed => by
    rcases List.mem_append.mp hinner with htested | hcandidate
    · exact (Expr.stands horder inside tested htested hformed.1).before.before.parenthesized
    · obtain ⟨part, hpart, hstands⟩ := Expr.standsEach horder inside candidates hcandidate
        hformed.2.2
      exact (hstands.separated ", " hpart).parenthesized.behind.parenthesized
  | .inQuery tested negated query, hinner, hformed => by
    rcases List.mem_append.mp hinner with htested | hquery
    · exact (Expr.stands horder inside tested htested hformed.1).before.before.parenthesized
    · exact (Statement.stands horder query hquery hformed.2.2).parenthesized.behind.parenthesized
  | .between tested negated low high, hinner, hformed => by
    rcases List.mem_append.mp hinner with hbefore | hhigh
    · rcases List.mem_append.mp hbefore with htested | hlow
      · have hstands := Expr.stands horder inside tested htested hformed.1
        exact hstands.before.before.before.before.parenthesized
      · exact (Expr.stands horder inside low hlow hformed.2.1).behind.before.before.parenthesized
    · exact (Expr.stands horder inside high hhigh hformed.2.2).behind.parenthesized
  | .cast operand typeName, hinner, hformed =>
    (Expr.stands horder inside operand hinner hformed.1).behind.before
  | .caseWhen branches otherwise, hinner, hformed => by
    rcases List.mem_append.mp hinner with hbranches | hotherwise
    · exact (Expr.standsBranches horder inside branches hbranches hformed.2.1).behind.before.before
    · obtain ⟨part, hpart, hstands⟩ := Expr.stands? horder inside otherwise hotherwise hformed.2.2
      exact (hstands.clause " ELSE " hpart).behind.before
  | .existsQuery query, hinner, hformed =>
    (Statement.stands horder query hinner hformed).parenthesized.behind.parenthesized

/-- A statement inside of expressions stands whole in the text of one of them. -/
theorem Expr.standsEach (horder : r.order = .writing) (inside : Bool) : (exprs : List Expr) →
    inner ∈ Expr.statementsEach exprs → Expr.AllWellFormed d exprs →
    ∃ part ∈ Expr.readEach r inside exprs, inner.Stands d r part
  | [], hinner, _ => nomatch hinner
  | first :: rest, hinner, hformed => by
    rcases List.mem_append.mp hinner with hfirst | hrest
    · exact ⟨_, List.mem_cons_self, Expr.stands horder inside first hfirst hformed.1⟩
    · obtain ⟨part, hpart, hstands⟩ := Expr.standsEach horder inside rest hrest hformed.2
      exact ⟨part, List.mem_cons_of_mem _ hpart, hstands⟩

theorem Expr.stands? (horder : r.order = .writing) (inside : Bool) : (expr : Option Expr) →
    inner ∈ Expr.statements? expr → Expr.WellFormed? d expr →
    ∃ part ∈ Expr.read? r inside expr, inner.Stands d r part
  | none, hinner, _ => nomatch hinner
  | some present, hinner, hformed => ⟨_, rfl, Expr.stands horder inside present hinner hformed⟩

/-- A statement inside of the branches of a CASE stands whole in their text. -/
theorem Expr.standsBranches (horder : r.order = .writing) (inside : Bool) :
    (branches : List (Expr × Expr)) →
    inner ∈ Expr.statementsBranches branches → Expr.BranchesWellFormed d branches →
    inner.Stands d r (Expr.readBranches r inside branches)
  | [], hinner, _ => nomatch hinner
  | (condition, result) :: rest, hinner, hformed => by
    rcases List.mem_append.mp hinner with hbranch | hrest
    · rcases List.mem_append.mp hbranch with hcondition | hresult
      · exact (Expr.stands horder inside condition hcondition hformed.1).behind.before.before.before
      · exact (Expr.stands horder inside result hresult hformed.2.1).behind.before
    · exact (Expr.standsBranches horder inside rest hrest hformed.2.2).behind

/-- A statement inside of rows stands whole in the text of one of them. -/
theorem Expr.standsRows (horder : r.order = .writing) (inside : Bool) : (rows : List (List Expr)) →
    inner ∈ Expr.statementsRows rows → Expr.RowsWellFormed d rows →
    ∃ part ∈ Expr.readRows r inside rows, inner.Stands d r part
  | [], hinner, _ => nomatch hinner
  | first :: rest, hinner, hformed => by
    rcases List.mem_append.mp hinner with hfirst | hrest
    · obtain ⟨cell, hcell, hstands⟩ := Expr.standsEach horder inside first hfirst hformed.1
      exact ⟨_, List.mem_cons_self, (hstands.separated ", " hcell).parenthesized⟩
    · obtain ⟨part, hpart, hstands⟩ := Expr.standsRows horder inside rest hrest hformed.2
      exact ⟨part, List.mem_cons_of_mem _ hpart, hstands⟩

/-- A statement inside of a source of rows stands whole in its text. -/
theorem RowSource.stands (horder : r.order = .writing) (inside : Bool) : (source : RowSource) →
    inner ∈ source.statements →
    source.WellFormed d → inner.Stands d r (source.read r inside)
  | .table _, hinner, _ | .cte _ _, hinner, _ => nomatch hinner
  | .derived id query, hinner, hformed =>
    (Statement.stands horder query hinner hformed).parenthesized.before
  | .join kind left right condition, hinner, hformed => by
    rcases List.mem_append.mp hinner with hsides | hcondition
    · rcases List.mem_append.mp hsides with hleft | hright
      · exact (RowSource.stands horder inside left hleft hformed.1).before.before.before
      · exact (RowSource.stands horder inside right hright hformed.2.1).behind.before
    · obtain ⟨part, hpart, hstands⟩ := Expr.stands? horder inside condition hcondition hformed.2.2.2
      exact (hstands.clause " ON " hpart).behind

theorem RowSource.standsEach (horder : r.order = .writing) (inside : Bool) :
    (sources : List RowSource) →
    inner ∈ RowSource.statementsEach sources → RowSource.AllWellFormed d sources →
    ∃ part ∈ RowSource.readEach r inside sources, inner.Stands d r part
  | [], hinner, _ => nomatch hinner
  | first :: rest, hinner, hformed => by
    rcases List.mem_append.mp hinner with hfirst | hrest
    · exact ⟨_, List.mem_cons_self, RowSource.stands horder inside first hfirst hformed.1⟩
    · obtain ⟨part, hpart, hstands⟩ := RowSource.standsEach horder inside rest hrest hformed.2
      exact ⟨part, List.mem_cons_of_mem _ hpart, hstands⟩

/-- A statement inside of a definition stands whole in its text. -/
theorem Cte.stands (horder : r.order = .writing) : (cte : Cte) → inner ∈ cte.statements →
    cte.WellFormed d →
    inner.Stands d r (cte.read r)
  | ⟨_, _, _, _, query⟩, hinner, hformed =>
    (Statement.stands horder query hinner hformed.2.2).parenthesized.behind

theorem Cte.standsEach (horder : r.order = .writing) : (ctes : List Cte) →
    inner ∈ Cte.statementsEach ctes →
    Cte.AllWellFormed d ctes → ∃ part ∈ Cte.readEach r ctes, inner.Stands d r part
  | [], hinner, _ => nomatch hinner
  | first :: rest, hinner, hformed => by
    rcases List.mem_append.mp hinner with hfirst | hrest
    · exact ⟨_, List.mem_cons_self, Cte.stands horder first hfirst hformed.1⟩
    · obtain ⟨part, hpart, hstands⟩ := Cte.standsEach horder rest hrest hformed.2
      exact ⟨part, List.mem_cons_of_mem _ hpart, hstands⟩

/-- A statement inside of a result stands whole in its text. -/
theorem ResultItem.stands (horder : r.order = .writing) (inside : Bool) : (item : ResultItem) →
    inner ∈ item.statements →
    item.WellFormed d → inner.Stands d r (item.read r inside)
  | ⟨expr, _⟩, hinner, hformed => (Expr.stands horder inside expr hinner hformed.1).before

theorem ResultItem.standsEach (horder : r.order = .writing) (inside : Bool) :
    (items : List ResultItem) →
    inner ∈ ResultItem.statementsEach items → ResultItem.AllWellFormed d items →
    ∃ part ∈ ResultItem.readEach r inside items, inner.Stands d r part
  | [], hinner, _ => nomatch hinner
  | first :: rest, hinner, hformed => by
    rcases List.mem_append.mp hinner with hfirst | hrest
    · exact ⟨_, List.mem_cons_self, ResultItem.stands horder inside first hfirst hformed.1⟩
    · obtain ⟨part, hpart, hstands⟩ := ResultItem.standsEach horder inside rest hrest hformed.2
      exact ⟨part, List.mem_cons_of_mem _ hpart, hstands⟩

/-- A statement inside of a sort key stands whole in its text. -/
theorem OrderTerm.stands (horder : r.order = .writing) (inside : Bool) : (term : OrderTerm) →
    inner ∈ term.statements →
    term.WellFormed d → inner.Stands d r (term.read r inside)
  | ⟨expr, _, _⟩, hinner, hformed => (Expr.stands horder inside expr hinner hformed).before.before

theorem OrderTerm.standsEach (horder : r.order = .writing) (inside : Bool) :
    (terms : List OrderTerm) →
    inner ∈ OrderTerm.statementsEach terms → OrderTerm.AllWellFormed d terms →
    ∃ part ∈ OrderTerm.readEach r inside terms, inner.Stands d r part
  | [], hinner, _ => nomatch hinner
  | first :: rest, hinner, hformed => by
    rcases List.mem_append.mp hinner with hfirst | hrest
    · exact ⟨_, List.mem_cons_self, OrderTerm.stands horder inside first hfirst hformed.1⟩
    · obtain ⟨part, hpart, hstands⟩ := OrderTerm.standsEach horder inside rest hrest hformed.2
      exact ⟨part, List.mem_cons_of_mem _ hpart, hstands⟩

/-- A statement inside of an assignment stands whole in its text. -/
theorem Assignment.stands (horder : r.order = .writing) (inside : Bool) :
    (assignment : Assignment) →
    inner ∈ assignment.statements → assignment.WellFormed d →
    inner.Stands d r (assignment.read r inside)
  | ⟨_, expr⟩, hinner, hformed => (Expr.stands horder inside expr hinner hformed.2.2).behind

theorem Assignment.standsEach (horder : r.order = .writing) (inside : Bool) :
    (assignments : List Assignment) →
    inner ∈ Assignment.statementsEach assignments → Assignment.AllWellFormed d assignments →
    ∃ part ∈ Assignment.readEach r inside assignments, inner.Stands d r part
  | [], hinner, _ => nomatch hinner
  | first :: rest, hinner, hformed => by
    rcases List.mem_append.mp hinner with hfirst | hrest
    · exact ⟨_, List.mem_cons_self, Assignment.stands horder inside first hfirst hformed.1⟩
    · obtain ⟨part, hpart, hstands⟩ := Assignment.standsEach horder inside rest hrest hformed.2
      exact ⟨part, List.mem_cons_of_mem _ hpart, hstands⟩

/-- A statement inside of what is done on a conflict stands whole in the text of the response. -/
theorem ConflictResponse.stands (horder : r.order = .writing) (inside : Bool) :
    (response : ConflictResponse) →
    inner ∈ response.statements → response.WellFormed d →
    inner.Stands d r (response.read r inside)
  | .doNothing, hinner, _ => nomatch hinner
  | .doUpdate assignments filter, hinner, hformed => by
    rcases List.mem_append.mp hinner with hassignments | hfilter
    · obtain ⟨part, hpart, hstands⟩ :=
        Assignment.standsEach horder inside assignments hassignments hformed.1
      exact (hstands.listClause " DO UPDATE SET " hpart).before
    · obtain ⟨part, hpart, hstands⟩ := Expr.stands? horder inside filter hfilter hformed.2
      exact (hstands.clause " WHERE " hpart).behind

/-- A statement inside of an ON CONFLICT clause stands whole in its text. -/
theorem ConflictClause.stands (horder : r.order = .writing) (inside : Bool) :
    (conflict : ConflictClause) →
    inner ∈ conflict.statements → conflict.WellFormed d →
    inner.Stands d r (conflict.read r inside)
  | ⟨_, response⟩, hinner, hformed =>
    (ConflictResponse.stands horder inside response hinner hformed.2).behind

theorem ConflictClause.stands? (horder : r.order = .writing) (inside : Bool) :
    (conflict : Option ConflictClause) →
    inner ∈ ConflictClause.statements? conflict → ConflictClause.WellFormed? d conflict →
    inner.Stands d r (ConflictClause.read? r inside conflict)
  | none, hinner, _ => nomatch hinner
  | some present, hinner, hformed => ConflictClause.stands horder inside present hinner hformed

/-- A statement inside of the values of an UPDATE stands whole in the text of the SET clause. -/
theorem NewValues.stands (horder : r.order = .writing) (columns : List Column) :
    (values : NewValues) →
    inner ∈ values.statements → values.WellFormed d → inner.Stands d r (values.read r columns)
  | .each values, hinner, hformed => by
    obtain ⟨part, hpart, hstands⟩ := Expr.standsEach horder true values hinner hformed.all
    obtain ⟨pair, hpair, hstands⟩ := hstands.pairs hpart columns
    exact hstands.separated ", " hpair
  | .fromQuery source, hinner, hformed =>
    (Statement.stands horder source hinner hformed).query columns
  | .queryThenEach source rest, hinner, hformed => by
    rw [NewValues.read]
    rcases List.mem_append.mp hinner with hsource | hrest
    · exact ((Statement.stands horder source hsource hformed.1).query _).separated ", "
        List.mem_cons_self
    · obtain ⟨part, hpart, hstands⟩ := Expr.standsEach horder true rest hrest hformed.2.all
      obtain ⟨pair, hpair, hstands⟩ :=
        hstands.pairs hpart (columns.drop (columns.length - rest.length))
      exact hstands.separated ", " (List.mem_cons_of_mem _ hpair)

/-- A statement inside of the rows of an INSERT stands whole in their text. -/
theorem NewRows.stands (horder : r.order = .writing) : (rows : NewRows) → inner ∈ rows.statements →
    rows.WellFormed d →
    inner.Stands d r (rows.read r)
  | .defaults, hinner, _ => nomatch hinner
  | .listed rows, hinner, hformed => by
    obtain ⟨part, hpart, hstands⟩ := Expr.standsRows horder true rows hinner hformed
    exact (hstands.separated ", " hpart).behind
  | .fromQuery source, hinner, hformed => (Statement.stands horder source hinner hformed).behind

/-- A statement inside of a SELECT stands whole in its text. -/
theorem Select.stands (horder : r.order = .writing) : (select : Select) →
    inner ∈ select.statements → select.WellFormed d →
    inner.Stands d r (select.read r)
  | ⟨ctes, distinct, columns, sources, filter, grouping, having, ordering, limit, offset⟩, hinner,
    hformed => by
    simp only [Select.statements, List.mem_append] at hinner
    simp only [Select.read, horder]
    obtain ⟨hctes, hcolumns, hsources, hfilter, hgrouping, hhaving, hordering⟩ := hformed
    rcases hinner with (((((h | h) | h) | h) | h) | h) | h
    · obtain ⟨part, hpart, hstands⟩ := Cte.standsEach horder ctes h hctes
      exact (hstands.cteList _ hpart).before.before.before.before.before.before.before
    · obtain ⟨part, hpart, hstands⟩ := ResultItem.standsEach horder true columns h hcolumns
      have hlisted : columns.isEmpty = false := by
        cases columns with
        | nil => cases h
        | cons first rest => rfl
      rw [hlisted]
      exact ((hstands.separated ", " hpart).behind).behind.before.before.before.before.before.before
    · obtain ⟨part, hpart, hstands⟩ := RowSource.standsEach horder true sources h hsources
      exact (hstands.listClause " FROM " hpart).behind.before.before.before.before.before
    · obtain ⟨part, hpart, hstands⟩ := Expr.stands? horder true filter h hfilter
      exact (hstands.clause " WHERE " hpart).behind.before.before.before.before
    · obtain ⟨part, hpart, hstands⟩ := Expr.standsEach horder true grouping h hgrouping
      exact (hstands.listClause " GROUP BY " hpart).behind.before.before.before
    · obtain ⟨part, hpart, hstands⟩ := Expr.stands? horder true having h hhaving
      exact (hstands.clause " HAVING " hpart).behind.before.before
    · obtain ⟨part, hpart, hstands⟩ := OrderTerm.standsEach horder true ordering h hordering
      exact (hstands.listClause " ORDER BY " hpart).behind.before

/-- A statement inside of an UPDATE stands whole in its text. -/
theorem Update.stands (horder : r.order = .writing) : (update : Update) →
    inner ∈ update.statements → update.WellFormed d →
    inner.Stands d r (update.read r)
  | ⟨ctes, table, columns, values, sources, filter, returning⟩, hinner, hformed => by
    simp only [Update.statements, List.mem_append] at hinner
    simp only [Update.read, horder]
    obtain ⟨-, hctes, -, -, hvalues, hsources, hfilter, -, hreturning⟩ := hformed
    rcases hinner with (((h | h) | h) | h) | h
    · obtain ⟨part, hpart, hstands⟩ := Cte.standsEach horder ctes h hctes
      exact (hstands.cteList _ hpart).before.before.before.before.before
    · exact (NewValues.stands horder columns values h hvalues).behind.before.before.before
    · obtain ⟨part, hpart, hstands⟩ := RowSource.standsEach horder true sources h hsources
      exact (hstands.listClause " FROM " hpart).behind.before.before
    · obtain ⟨part, hpart, hstands⟩ := Expr.stands? horder true filter h hfilter
      exact (hstands.clause " WHERE " hpart).behind.before
    · obtain ⟨part, hpart, hstands⟩ := ResultItem.standsEach horder true returning h hreturning
      exact (hstands.listClause " RETURNING " hpart).behind

/-- A statement inside of an INSERT stands whole in its text. -/
theorem Insert.stands (horder : r.order = .writing) : (insert : Insert) →
    inner ∈ insert.statements → insert.WellFormed d →
    inner.Stands d r (insert.read r)
  | ⟨ctes, table, columns, rows, conflict, returning⟩, hinner, hformed => by
    simp only [Insert.statements, List.mem_append] at hinner
    simp only [Insert.read, horder]
    obtain ⟨-, hctes, -, -, hrows, hconflict, -, hreturning⟩ := hformed
    rcases hinner with ((h | h) | h) | h
    · obtain ⟨part, hpart, hstands⟩ := Cte.standsEach horder ctes h hctes
      exact (hstands.cteList _ hpart).before.before.before.before.before
    · exact (NewRows.stands horder rows h hrows).behind.before.before
    · exact (ConflictClause.stands? horder true conflict h hconflict).behind.before
    · obtain ⟨part, hpart, hstands⟩ := ResultItem.standsEach horder true returning h hreturning
      exact (hstands.listClause " RETURNING " hpart).behind

/-- A statement inside of a DELETE stands whole in its text. -/
theorem Delete.stands (horder : r.order = .writing) : (delete : Delete) →
    inner ∈ delete.statements → delete.WellFormed d →
    inner.Stands d r (delete.read r)
  | ⟨ctes, table, sources, filter, returning⟩, hinner, hformed => by
    simp only [Delete.statements, List.mem_append] at hinner
    simp only [Delete.read, horder]
    obtain ⟨hctes, -, hsources, hfilter, -, hreturning⟩ := hformed
    rcases hinner with ((h | h) | h) | h
    · obtain ⟨part, hpart, hstands⟩ := Cte.standsEach horder ctes h hctes
      exact (hstands.cteList _ hpart).before.before.before.before
    · obtain ⟨part, hpart, hstands⟩ := RowSource.standsEach horder true sources h hsources
      exact (hstands.listClause " USING " hpart).behind.before.before
    · obtain ⟨part, hpart, hstands⟩ := Expr.stands? horder true filter h hfilter
      exact (hstands.clause " WHERE " hpart).behind.before
    · obtain ⟨part, hpart, hstands⟩ := ResultItem.standsEach horder true returning h hreturning
      exact (hstands.listClause " RETURNING " hpart).behind

/-- A statement, or one inside of it, stands whole in its text. -/
theorem Statement.stands (horder : r.order = .writing) : (statement : Statement) →
    inner ∈ statement.statements →
    statement.WellFormed d → inner.Stands d r (statement.read r)
  | .select statement, hinner, hformed => by
    rcases List.mem_cons.mp hinner with rfl | hinner
    · exact ⟨hformed, List.infix_rfl⟩
    · exact Select.stands horder statement hinner hformed
  | .update statement, hinner, hformed => by
    rcases List.mem_cons.mp hinner with rfl | hinner
    · exact ⟨hformed, List.infix_rfl⟩
    · exact Update.stands horder statement hinner hformed
  | .insert statement, hinner, hformed => by
    rcases List.mem_cons.mp hinner with rfl | hinner
    · exact ⟨hformed, List.infix_rfl⟩
    · exact Insert.stands horder statement hinner hformed
  | .delete statement, hinner, hformed => by
    rcases List.mem_cons.mp hinner with rfl | hinner
    · exact ⟨hformed, List.infix_rfl⟩
    · exact Delete.stands horder statement hinner hformed
termination_by structural statement => statement

end

/-- In a well-formed node, a statement of any depth is well formed and stands whole in what is taken
from the node, inside of another statement or alone. -/
theorem Node.stands_at (horder : r.order = .writing) (inside : Bool) : (node : Node) →
    inner ∈ node.statements →
    node.WellFormed d → inner.Stands d r (node.readAt r inside)
  | .statement tree, hinner, hformed => Statement.stands horder tree hinner hformed
  | .expr tree, hinner, hformed => Expr.stands horder inside tree hinner hformed
  | .item tree, hinner, hformed => ResultItem.stands horder inside tree hinner hformed
  | .order tree, hinner, hformed => OrderTerm.stands horder inside tree hinner hformed
  | .assignment tree, hinner, hformed => Assignment.stands horder inside tree hinner hformed
  | .source tree, hinner, hformed => RowSource.stands horder inside tree hinner hformed
  | .conflict tree, hinner, hformed => ConflictClause.stands horder inside tree hinner hformed

/-- In a well-formed node, a statement of any depth is well formed and stands whole in the text. -/
theorem Node.stands_of_mem_statements (horder : r.order = .writing) (node : Node)
    (hinner : inner ∈ node.statements)
    (hformed : node.WellFormed d) : inner.Stands d r (node.read r) := by
  rw [Node.read_eq_readAt]
  exact Node.stands_at horder false node hinner hformed

end BoundSql
