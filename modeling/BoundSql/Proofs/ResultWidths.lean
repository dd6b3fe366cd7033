import BoundSql.Proofs.WildcardTexts
import BoundSql.Tree.Builder

/-!
# What the width of a statement says about its text

The width of a statement is known where none of its results is a wildcard by its constructor, and
the text then shows as many results (`Statement.width_of_render`). A connective with a single
operand is written as this operand, and the width does not look through it: such a result is counted
as one, also where it is written as a wildcard. No other result is.
-/

set_option autoImplicit false
set_option relaxedAutoImplicit false

namespace BoundSql

namespace Statement

/-! ### Results in the text -/

/-- The items of the select list or of the RETURNING list. -/
def results : Statement → List ResultItem
  | .select statement => statement.columns
  | .update statement => statement.returning
  | .insert statement => statement.returning
  | .delete statement => statement.returning

section Reading

variable {α : Type} (r : Reading α)

/-- What is taken from the word in front of a RETURNING list. -/
def readReturning (items : List ResultItem) : List α :=
  if items.isEmpty then [] else r.text " RETURNING "

/-- What is taken from a statement in front of its results. -/
def readLead : Statement → List α
  | .select statement =>
    Cte.readList r (statement.ctes.any Cte.recursive) (Cte.readEach r statement.ctes) ++
      r.text (if statement.distinct then "SELECT DISTINCT " else "SELECT ")
  | .update statement =>
    Update.read r { statement with returning := [] } ++ readReturning r statement.returning
  | .insert statement =>
    Insert.read r { statement with returning := [] } ++ readReturning r statement.returning
  | .delete statement =>
    Delete.read r { statement with returning := [] } ++ readReturning r statement.returning

/-- What is taken from the results of a statement. Without a select list, all columns are
selected. -/
def readResults : Statement → List α
  | .select statement =>
    if statement.columns.isEmpty then r.text "*"
    else r.commaSeparated (ResultItem.readEach r true statement.columns)
  | .update statement => r.commaSeparated (ResultItem.readEach r true statement.returning)
  | .insert statement => r.commaSeparated (ResultItem.readEach r true statement.returning)
  | .delete statement => r.commaSeparated (ResultItem.readEach r true statement.returning)

/-- What is taken from a statement behind its results. -/
def readTail : Statement → List α
  | .select statement =>
    r.listClause " FROM " (RowSource.readEach r true statement.sources) ++
      r.clause " WHERE " (Expr.read? r true statement.filter) ++
      r.listClause " GROUP BY " (Expr.readEach r true statement.grouping) ++
      r.clause " HAVING " (Expr.read? r true statement.having) ++
      r.listClause " ORDER BY " (OrderTerm.readEach r true statement.ordering) ++
      r.bounds statement.limit statement.offset
  | _ => []

variable {r}

/-- A RETURNING clause is read as its keyword and its items, or as nothing. -/
theorem listClause_returning (items : List ResultItem) :
    r.listClause " RETURNING " (ResultItem.readEach r true items) =
      readReturning r items ++ r.commaSeparated (ResultItem.readEach r true items) := by
  cases items with
  | nil => rfl
  | cons first rest => rfl

/-- In the order of the text, the results stand between what is in front and what is behind. -/
theorem read_eq_results (horder : r.order = .writing) (statement : Statement) :
    statement.read r = statement.readLead r ++ statement.readResults r ++ statement.readTail r := by
  cases statement with
  | select statement =>
    obtain ⟨ctes, distinct, columns, sources, filter, grouping, having, ordering, limit, offset⟩ :=
      statement
    simp only [Statement.read, Select.read, horder, readLead, readResults, readTail,
      List.append_assoc]
  | update statement =>
    obtain ⟨ctes, table, columns, values, sources, filter, returning⟩ := statement
    simp only [Statement.read, Update.read, horder, readLead, readResults, readTail,
      listClause_returning, List.append_assoc, List.append_nil]
    rfl
  | insert statement =>
    obtain ⟨ctes, table, columns, rows, conflict, returning⟩ := statement
    simp only [Statement.read, Insert.read, horder, readLead, readResults, readTail,
      listClause_returning, List.append_assoc, List.append_nil]
    rfl
  | delete statement =>
    obtain ⟨ctes, table, sources, filter, returning⟩ := statement
    simp only [Statement.read, Delete.read, horder, readLead, readResults, readTail,
      listClause_returning, List.append_assoc, List.append_nil]
    rfl

end Reading

end Statement

/-! ### The texts of results -/

variable {d : Dialect} {aliasOf : Identity → String}

/-- The text of an item, behind `position` values. -/
def ResultItem.spelled (d : Dialect) (aliasOf : Identity → String) (position : Nat)
    (item : ResultItem) : String :=
  Token.spelled d aliasOf position (item.read (.tokens d) true)

/-- The texts of items in a list, behind `position` values. -/
def ResultItem.spelledEach (d : Dialect) (aliasOf : Identity → String) :
    Nat → List ResultItem → List String
  | _, [] => []
  | position, item :: rest =>
    item.spelled d aliasOf position ::
      spelledEach d aliasOf (position + Token.valueCount (item.read (.tokens d) true)) rest

/-- Every item has one text. -/
theorem ResultItem.length_spelledEach (position : Nat) (items : List ResultItem) :
    (spelledEach d aliasOf position items).length = items.length := by
  induction items generalizing position with
  | nil => rfl
  | cons item rest ih => rw [spelledEach, List.length_cons, List.length_cons, ih]

/-- The texts of items are those of what is read from each. -/
theorem ResultItem.spelledEach_eq_readEach (position : Nat) (items : List ResultItem) :
    spelledEach d aliasOf position items =
      Token.spelledEach d aliasOf position (ResultItem.readEach (.tokens d) true items) := by
  induction items generalizing position with
  | nil => rfl
  | cons first rest ih => rw [spelledEach, ih, ResultItem.readEach, Token.spelledEach, spelled]

/-- A list of items is written as their texts with commas between them. -/
theorem ResultItem.spelled_commaSeparated (position : Nat) (items : List ResultItem) :
    Token.spelled d aliasOf position
        ((Reading.tokens d).commaSeparated (ResultItem.readEach (.tokens d) true items)) =
      ", ".intercalate (spelledEach d aliasOf position items) := by
  rw [Token.spelled_commaSeparated, spelledEach_eq_readEach]

namespace Statement

/-- The texts of the results of a statement, behind `position` values. -/
def shownResults (d : Dialect) (aliasOf : Identity → String) (position : Nat) :
    Statement → List String
  | .select statement =>
    if statement.columns.isEmpty then ["*"]
    else ResultItem.spelledEach d aliasOf position statement.columns
  | statement => ResultItem.spelledEach d aliasOf position statement.results

/-- The results of a statement are spelled with commas between them. -/
theorem spelled_readResults (position : Nat) (statement : Statement) :
    Token.spelled d aliasOf position (statement.readResults (.tokens d)) =
      ", ".intercalate (statement.shownResults d aliasOf position) := by
  cases statement with
  | select statement =>
    rw [readResults, shownResults]
    split
    · rw [String.intercalate_singleton]
      rfl
    · exact ResultItem.spelled_commaSeparated position statement.columns
  | update statement => exact ResultItem.spelled_commaSeparated position statement.returning
  | insert statement => exact ResultItem.spelled_commaSeparated position statement.returning
  | delete statement => exact ResultItem.spelled_commaSeparated position statement.returning

/-- A text of results stands between what is in front and what is behind. -/
theorem sql_eq_shownResults {statement : Statement} {query : Query}
    (hrender : (Node.statement statement).render d = .ok query) :
    let aliasOf := (Node.statement statement).aliasOf d
    let lead := statement.readLead (.tokens d)
    let results := statement.readResults (.tokens d)
    query.sql =
      Token.spelled d aliasOf 0 lead ++
        ", ".intercalate (statement.shownResults d aliasOf (Token.valueCount lead)) ++
        Token.spelled d aliasOf (Token.valueCount (lead ++ results))
          (statement.readTail (.tokens d)) := by
  intro aliasOf lead results
  have hread : (Node.statement statement).tokens d = lead ++ results ++
      statement.readTail (.tokens d) := read_eq_results rfl statement
  rw [Node.sql_eq_spelled hrender, hread, Token.spelled_append, Token.spelled_append, Nat.zero_add,
    Nat.zero_add, spelled_readResults]

end Statement

/-! ### Widths -/

/-- What is written as a wildcard is one by its constructor, or hides it in a connective. -/
theorem Expr.isWildcard_or_connected {expr : Expr} (hstar : expr.reduced = .star) :
    expr.isWildcard = true ∨ ∃ connective operand, expr = .connected connective [operand] := by
  cases expr with
  | column reference =>
    left
    by_contra hproper
    have hproper : ¬ reference.isWildcard = true := hproper
    rw [Expr.reduced, Column.reduced, if_neg hproper] at hstar
    cases hstar
  | star => exact .inl rfl
  | connected connective operands =>
    obtain _ | ⟨only, _ | ⟨second, rest⟩⟩ := operands
    · cases hstar
    · exact .inr ⟨connective, only, rfl⟩
    · cases hstar
  | _ => cases hstar

/-- Items of known width are as many as it says, and none is the wildcard. -/
theorem ResultItem.widthOf_eq_some {items : List ResultItem} {count : Nat}
    (hwidth : widthOf items = some count) :
    items.length = count ∧ ∀ item ∈ items, item.isWildcard = false := by
  unfold widthOf at hwidth
  split at hwidth
  · cases hwidth
  · rename_i hnone
    refine ⟨Option.some.inj hwidth, fun item hitem ↦ ?_⟩
    by_contra hwildcard
    exact hnone (List.any_eq_true.mpr ⟨item, hitem, by simpa using hwildcard⟩)

namespace Statement

/-- The results of a well-formed statement are well formed. -/
theorem wellFormed_of_mem_results {statement : Statement} (hformed : statement.WellFormed d)
    {item : ResultItem} (hitem : item ∈ statement.results) : item.WellFormed d := by
  cases statement with
  | select statement =>
    obtain ⟨ctes, distinct, columns, sources, filter, grouping, having, ordering, limit, offset⟩ :=
      statement
    exact hformed.2.1.of_mem hitem
  | update statement =>
    obtain ⟨ctes, table, columns, values, sources, filter, returning⟩ := statement
    exact hformed.2.2.2.2.2.2.2.2.of_mem hitem
  | insert statement =>
    obtain ⟨ctes, table, columns, rows, conflict, returning⟩ := statement
    exact hformed.2.2.2.2.2.2.2.of_mem hitem
  | delete statement =>
    obtain ⟨ctes, table, sources, filter, returning⟩ := statement
    exact hformed.2.2.2.2.2.of_mem hitem

/-- Where the width is known, there are as many results, none is a wildcard by its constructor, and
the results are what the text shows. -/
theorem width_eq_some (d : Dialect) (aliasOf : Identity → String) {statement : Statement}
    {count : Nat} (hwidth : statement.width = some count) :
    statement.results.length = count ∧ (∀ item ∈ statement.results, item.isWildcard = false) ∧
      ∀ position, statement.shownResults d aliasOf position =
        ResultItem.spelledEach d aliasOf position statement.results := by
  cases statement with
  | select statement =>
    change statement.width = some count at hwidth
    unfold Select.width at hwidth
    split at hwidth
    · cases hwidth
    · rename_i hlisted
      obtain ⟨hlength, hproper⟩ := ResultItem.widthOf_eq_some hwidth
      exact ⟨hlength, hproper, fun _ ↦ if_neg hlisted⟩
  | update statement =>
    obtain ⟨hlength, hproper⟩ := ResultItem.widthOf_eq_some hwidth
    exact ⟨hlength, hproper, fun _ ↦ rfl⟩
  | insert statement =>
    obtain ⟨hlength, hproper⟩ := ResultItem.widthOf_eq_some hwidth
    exact ⟨hlength, hproper, fun _ ↦ rfl⟩
  | delete statement =>
    obtain ⟨hlength, hproper⟩ := ResultItem.widthOf_eq_some hwidth
    exact ⟨hlength, hproper, fun _ ↦ rfl⟩

/-- A statement of known width shows as many results. Where a result is written as a wildcard, the
width is unknown, or the result is a connective with a single operand. -/
theorem width_of_render {statement : Statement} {query : Query}
    (hrender : (Node.statement statement).render d = .ok query) :
    let aliasOf := (Node.statement statement).aliasOf d
    let lead := statement.readLead (.tokens d)
    let shown := statement.shownResults d aliasOf (Token.valueCount lead)
    query.sql =
        Token.spelled d aliasOf 0 lead ++ ", ".intercalate shown ++
          Token.spelled d aliasOf
            (Token.valueCount (lead ++ statement.readResults (.tokens d)))
            (statement.readTail (.tokens d)) ∧
      (∀ count, statement.width = some count →
        shown.length = count ∧
          shown = ResultItem.spelledEach d aliasOf (Token.valueCount lead) statement.results) ∧
      ∀ item ∈ statement.results, ∀ position,
        WildcardText d aliasOf (item.expr.spelled d aliasOf position) →
          statement.width = none ∨
            ∃ connective operand, item.expr = .connected connective [operand] := by
  intro aliasOf lead shown
  refine ⟨sql_eq_shownResults hrender, fun count hwidth ↦ ?_, fun item hitem position htext ↦ ?_⟩
  · obtain ⟨hlength, -, hshown⟩ := width_eq_some d aliasOf hwidth
    have hsame : shown =
        ResultItem.spelledEach d aliasOf (Token.valueCount lead) statement.results := hshown _
    exact ⟨by rw [hsame, ResultItem.length_spelledEach, hlength], hsame⟩
  · have hformed : statement.WellFormed d :=
      (Node.accepted_layout_iff _).mp (Node.accepted_of_render hrender)
    have haliases : ∀ relation, ∃ index, aliasOf relation = aliasWord index :=
      fun relation ↦ ⟨_, rfl⟩
    have hexpr : item.expr.WellFormed d := by
      have hitemFormed := wellFormed_of_mem_results hformed hitem
      obtain ⟨expr, name⟩ := item
      exact hitemFormed.1
    have hreduced : item.expr.reduced = .star :=
      (Expr.wildcardText_iff hexpr haliases position).mp htext
    rcases Expr.isWildcard_or_connected hreduced with hwildcard | hconnected
    · left
      -- A width is known only where no result is a wildcard by its constructor.
      cases hwidth : statement.width with
      | none => rfl
      | some count =>
        have hproper := (width_eq_some d aliasOf hwidth).2.1 item hitem
        rw [ResultItem.isWildcard, hwildcard] at hproper
        cases hproper
    · exact .inr hconnected

end Statement

/-! ### Two widths -/

/-- How many goods there are, and their names. -/
def surveying : Statement :=
  let goods : Table := ⟨⟨0⟩, "goods", none⟩
  .select ((Select.blank.selecting
    [.plain .countStar, .named (.column (goods.column "name")) "label"]).fromSource (.table goods))

/-- The query of `surveying`. -/
def surveyed : Query where
  sql := "SELECT COUNT(*), \"a\".\"name\" AS \"label\" FROM \"goods\" AS \"a\""
  params := []

theorem width_of_surveyed :
    (Node.statement surveying).render .postgres = .ok surveyed ∧
      surveying.width = some 2 ∧
      (surveying.shownResults .postgres ((Node.statement surveying).aliasOf .postgres)
        (Token.valueCount (surveying.readLead (.tokens .postgres)))).length = 2 := by
  have hrender : (Node.statement surveying).render .postgres = .ok surveyed := by decide +kernel
  have hwidth : surveying.width = some 2 := rfl
  obtain ⟨-, hshown, -⟩ := Statement.width_of_render hrender
  exact ⟨hrender, hwidth, (hshown 2 hwidth).1⟩

/-- A SELECT of the conjunction of all columns, which has no second operand. -/
def conjoining : Statement :=
  let goods : Table := ⟨⟨0⟩, "goods", none⟩
  .select ((Select.blank.selecting [.plain (.all [.star])]).fromSource (.table goods))

/-- The query of `conjoining`. -/
def conjoined : Query where
  sql := "SELECT * FROM \"goods\" AS \"a\""
  params := []

/-- All columns are selected, and the width is known to be one. -/
theorem conjoining_hides_wildcard :
    (Node.statement conjoining).render .postgres = .ok conjoined ∧
      conjoining.width = some 1 ∧
      ∀ item ∈ conjoining.results,
        WildcardText .postgres ((Node.statement conjoining).aliasOf .postgres)
          (item.expr.spelled .postgres ((Node.statement conjoining).aliasOf .postgres) 0) := by
  refine ⟨by decide +kernel, rfl, ?_⟩
  intro item hitem
  have hitem : item = .plain (.all [.star]) := List.mem_singleton.mp hitem
  rw [hitem]
  exact .inl rfl

end BoundSql
