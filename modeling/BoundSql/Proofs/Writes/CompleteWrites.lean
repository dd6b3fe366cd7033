import BoundSql.Proofs.FailedStatements
import BoundSql.Proofs.Nesting.Additions
import BoundSql.Proofs.Writes.WrittenColumns

/-!
# What is written is written in full

An UPDATE pairs columns with values, and an INSERT sets rows under named columns, from lists that
could be of any length. Where a statement is rendered, no list is cut short: the assignments of an
UPDATE cover its columns and its values (`NewValues.Covers`), and every row of an INSERT has as many
cells in the text as columns are named (`Node.writes_in_full`). Columns that a query and the values
behind it would have to split, but cannot, are refused before anything is written.
-/

set_option autoImplicit false
set_option relaxedAutoImplicit false

namespace BoundSql

variable {d : Dialect} {aliasOf : Identity → String}

/-! ### Assignments that cover columns and values -/

/-- Each column is assigned the value at its place, and neither list is the longer one. -/
inductive SetEntry.Pair : List Column → List Expr → List SetEntry → Prop
  | nil : Pair [] [] []
  | cons {columns : List Column} {values : List Expr} {entries : List SetEntry}
      (column : Column) (value : Expr) (later : Pair columns values entries) :
      Pair (column :: columns) (value :: values) (.value column value :: entries)

/-- The assignments take every column and every value, once and in their order: column by column, or
the columns of a query first, of which there is at least one. -/
inductive NewValues.Covers : List Column → NewValues → List SetEntry → Prop
  | each {columns : List Column} {values : List Expr} {entries : List SetEntry}
      (pairs : SetEntry.Pair columns values entries) : Covers columns (.each values) entries
  | fromQuery {columns : List Column} (source : Statement) (hcolumns : columns ≠ []) :
      Covers columns (.fromQuery source) [.query columns source]
  | queryThenEach {leading trailing : List Column} {rest : List Expr} {entries : List SetEntry}
      (source : Statement) (hleading : leading ≠ [])
      (pairs : SetEntry.Pair trailing rest entries) :
      Covers (leading ++ trailing) (.queryThenEach source rest) (.query leading source :: entries)

theorem SetEntry.pair_zipWith {columns : List Column} {values : List Expr}
    (hlength : values.length = columns.length) :
    Pair columns values (List.zipWith .value columns values) := by
  induction columns generalizing values with
  | nil =>
    obtain rfl := List.eq_nil_of_length_eq_zero hlength
    exact .nil
  | cons column columns ih =>
    obtain ⟨value, later, rfl⟩ := List.exists_cons_of_length_eq_add_one hlength
    exact .cons column value (ih (Nat.succ_inj.mp hlength))

/-- Values that fit the columns cover them. -/
theorem NewValues.covers_setEntries {columns : List Column} {values : NewValues}
    (hcolumns : columns ≠ []) (hfit : values.FitColumns columns.length) :
    values.Covers columns (values.setEntries columns) := by
  cases values with
  | each values => exact .each (SetEntry.pair_zipWith hfit)
  | fromQuery source => exact .fromQuery source hcolumns
  | queryThenEach source rest =>
    have hfewer : rest.length < columns.length := hfit.1
    have hleading : columns.take (columns.length - rest.length) ≠ [] := by
      rw [← List.length_pos_iff, List.length_take]
      omega
    have hcovers := Covers.queryThenEach source hleading
      (SetEntry.pair_zipWith (length_drop_of_fitColumns hfit).symm)
    rwa [List.take_append_drop] at hcovers

/-! ### The text of an UPDATE -/

namespace Update

/-- The text of an UPDATE whose SET clause has these entries, behind `position` values. -/
def spelledWith (d : Dialect) (aliasOf : Identity → String) (position : Nat) (update : Update)
    (entries : List SetEntry) : String :=
  let opening := update.readOpening (.tokens d)
  let assigned := entries.map (SetEntry.read (.tokens d))
  let inside := position + Token.valueCount opening
  let after := inside + Token.valueCount assigned.flatten
  Token.spelled d aliasOf position opening ++
    ", ".intercalate (Token.spelledEach d aliasOf inside assigned) ++
    Token.spelled d aliasOf after (update.readClauses (.tokens d))

theorem spelled_read {update : Update} (hfit : update.values.FitColumns update.columns.length)
    (position : Nat) :
    Token.spelled d aliasOf position (update.read (.tokens d)) =
      update.spelledWith d aliasOf position update.setEntries := by
  rw [read_eq_setEntries rfl hfit, Token.spelled_append, Token.spelled_append,
    Token.spelled_commaSeparated, Token.valueCount_append, Token.valueCount_commaSeparated,
    ← Nat.add_assoc]
  rfl

/-- The columns that are left to the query of an UPDATE, in front of those of its other values:
there are no more other values than columns, and at least one column is left. -/
def Splits (update : Update) : Prop :=
  ∀ source rest, update.values = .queryThenEach source rest →
    rest.length ≤ update.columns.length ∧
      1 ≤ update.columns.length - rest.length ∧
      update.columns.length - rest.length ≤ update.columns.length

/-- An UPDATE is written in full: its assignments cover its columns and its values, and the text
shows them one by one. -/
structure InFull (d : Dialect) (aliasOf : Identity → String) (sql : String) (update : Update) :
    Prop where
  /-- The columns can be split between a query and the values behind it. -/
  splits : update.Splits
  /-- Every column has its assignment, and every value is assigned. -/
  covers : update.values.Covers update.columns update.setEntries
  /-- The assignments stand in the text, between what is in front of them and what is behind. -/
  shown : ∃ before position behind,
    sql = before ++ update.spelledWith d aliasOf position update.setEntries ++ behind

theorem splits_of_fitColumns {update : Update}
    (hfit : update.values.FitColumns update.columns.length) : update.Splits := by
  intro source rest hvalues
  rw [hvalues] at hfit
  have hfewer : rest.length < update.columns.length := hfit.1
  exact ⟨Nat.le_of_lt hfewer, Nat.sub_pos_of_lt hfewer, Nat.sub_le _ _⟩

/-- An UPDATE whose columns cannot be split is refused before anything is met or written. -/
theorem run_of_not_splits {update : Update} (hsplits : ¬ update.Splits) (before : RenderState) :
    ∃ refusal, (update.layout d).run d before = .error refusal before := by
  have herror : update.error? ≠ none := fun hnone ↦
    hsplits (splits_of_fitColumns (error?_eq_none_iff.mp hnone).2.2)
  obtain ⟨ctes, table, columns, values, sources, filter, returning⟩ := update
  rw [layout]
  exact Layout.exists_run_require_append_eq_error herror _ before

theorem WellFormed.inFull {update : Update} {sql : String} (hformed : update.WellFormed d)
    (hstands : ∃ before position behind,
      sql = before ++ Token.spelled d aliasOf position (update.read (.tokens d)) ++ behind) :
    update.InFull d aliasOf sql := by
  have hfit := hformed.fitColumns
  refine ⟨splits_of_fitColumns hfit, NewValues.covers_setEntries ?_ hfit, ?_⟩
  · obtain ⟨ctes, table, columns, values, sources, filter, returning⟩ := update
    exact hformed.1.1
  · obtain ⟨before, position, behind, hsql⟩ := hstands
    rw [spelled_read hfit] at hsql
    exact ⟨before, position, behind, hsql⟩

end Update

/-! ### Named columns -/

namespace Column

/-- What is taken from columns that are named in parentheses, unless there are none. -/
def readNames {α : Type} (r : Reading α) (columns : List Column) : List α :=
  if columns.isEmpty then []
  else r.text " (" ++ r.commaSeparated (columns.map (readBare r)) ++ r.text ")"

/-- The texts of named columns. -/
def spelledNames (d : Dialect) (columns : List Column) : List String :=
  columns.map fun column ↦ if column.name = "*" then "*" else d.enclose column.name

theorem valueCount_readBare (column : Column) :
    Token.valueCount (column.readBare (.tokens d)) = 0 := by
  unfold readBare
  split <;> rfl

theorem valueCount_readNames (columns : List Column) :
    Token.valueCount (readNames (.tokens d) columns) = 0 := by
  have hcount : Token.valueCount (columns.map (readBare (.tokens d))).flatten = 0 :=
    Token.valueCount_flatten (List.forall_mem_map.mpr fun column _ ↦ valueCount_readBare column)
  unfold readNames
  split
  · rfl
  · rw [Token.valueCount_append, Token.valueCount_append, Token.valueCount_commaSeparated, hcount,
      Token.valueCount_readText, Token.valueCount_readText]

/-- Named columns are written one by one, in parentheses. -/
theorem spelled_readNames (position : Nat) (columns : List Column) :
    Token.spelled d aliasOf position (readNames (.tokens d) columns) =
      if columns.isEmpty then "" else " (" ++ ", ".intercalate (spelledNames d columns) ++ ")" := by
  have hnames (behind : Nat) :
      Token.spelledEach d aliasOf behind (columns.map (readBare (.tokens d))) =
        spelledNames d columns := by
    rw [Token.spelledEach_eq_map (List.forall_mem_map.mpr fun column _ ↦
      valueCount_readBare column), List.map_map]
    exact List.map_congr_left fun column _ ↦ spelled_readBare aliasOf behind column
  unfold readNames
  split
  · rfl
  · rw [Token.spelled_append, Token.spelled_append, Token.spelled_commaSeparated, hnames,
      Token.spelled_readText, Token.spelled_readText]

end Column

/-! ### The text of an INSERT -/

/-- What the cells of a row are written as. -/
def Expr.cellTokens (d : Dialect) (row : List Expr) : List (List Token) :=
  row.map (Expr.read (.tokens d) true)

namespace NewRows

/-- The texts of the cells of each row, behind `position` values. -/
def spelledCells (d : Dialect) (aliasOf : Identity → String) :
    Nat → List (List Expr) → List (List String)
  | _, [] => []
  | position, row :: rest =>
    Token.spelledEach d aliasOf position (Expr.cellTokens d row) ::
      spelledCells d aliasOf (position + Token.valueCount (Expr.cellTokens d row).flatten) rest

/-- As many rows are written as there are, each with all of its cells. -/
theorem map_length_spelledCells (position : Nat) (rows : List (List Expr)) :
    (spelledCells d aliasOf position rows).map List.length = rows.map List.length := by
  induction rows generalizing position with
  | nil => rfl
  | cons row rest ih =>
    rw [spelledCells, List.map_cons, ih, Token.length_spelledEach, Expr.cellTokens,
      List.length_map, List.map_cons]

/-- What a row is written as. -/
def rowTokens (d : Dialect) (row : List Expr) : List Token :=
  (Reading.tokens d).parenthesized ((Reading.tokens d).commaSeparated (Expr.cellTokens d row))

theorem valueCount_rowTokens (row : List Expr) :
    Token.valueCount (rowTokens d row) = Token.valueCount (Expr.cellTokens d row).flatten := by
  rw [rowTokens, Reading.parenthesized, Token.valueCount_append, Token.valueCount_append,
    Token.valueCount_readText, Token.valueCount_readText, Nat.zero_add, Nat.add_zero,
    Token.valueCount_commaSeparated]

/-- Each row is written as its cells with commas between them, in parentheses. -/
theorem spelledEach_rowTokens (position : Nat) (rows : List (List Expr)) :
    Token.spelledEach d aliasOf position (rows.map (rowTokens d)) =
      (spelledCells d aliasOf position rows).map fun cells ↦
        "(" ++ ", ".intercalate cells ++ ")" := by
  induction rows generalizing position with
  | nil => rfl
  | cons row rest ih =>
    rw [List.map_cons, Token.spelledEach, ih, valueCount_rowTokens, rowTokens,
      Token.spelled_parenthesized, Token.spelled_commaSeparated, spelledCells, List.map_cons]

end NewRows

namespace Insert

section Reading

variable {α : Type} (r : Reading α)

/-- What is taken from an INSERT up to its target. -/
def readOpening (insert : Insert) : List α :=
  Cte.readList r (insert.ctes.any Cte.recursive) (Cte.readEach r insert.ctes) ++
    (r.text "INSERT INTO " ++ insert.table.readName r ++ r.targetAlias insert.table.id)

/-- What is taken from the clauses of an INSERT behind its rows. -/
def readClauses (insert : Insert) : List α :=
  ConflictClause.read? r true insert.conflict ++
    r.listClause " RETURNING " (ResultItem.readEach r true insert.returning)

variable {r}

/-- In the order of the text, the rows of an INSERT stand between its named columns and its other
clauses. -/
theorem read_eq_parts (horder : r.order = .writing) (insert : Insert) :
    insert.read r =
      insert.readOpening r ++ Column.readNames r insert.columns ++ insert.rows.read r ++
        insert.readClauses r := by
  obtain ⟨ctes, table, columns, rows, conflict, returning⟩ := insert
  simp only [Insert.read, horder, readOpening, Column.readNames, readClauses, List.append_assoc]

end Reading

/-- The texts of the cells of an INSERT of rows, behind `position` values. -/
def spelledCells (d : Dialect) (aliasOf : Identity → String) (position : Nat) (insert : Insert)
    (rows : List (List Expr)) : List (List String) :=
  NewRows.spelledCells d aliasOf
    (position + Token.valueCount (insert.readOpening (.tokens d))) rows

/-- The text of an INSERT of rows behind `position` values. -/
def spelledWith (d : Dialect) (aliasOf : Identity → String) (position : Nat) (insert : Insert)
    (rows : List (List Expr)) : String :=
  let opening := insert.readOpening (.tokens d)
  let cells := insert.spelledCells d aliasOf position rows
  let added := (rows.map (NewRows.rowTokens d)).flatten
  let after := position + Token.valueCount opening + Token.valueCount added
  Token.spelled d aliasOf position opening ++
    (" (" ++ ", ".intercalate (Column.spelledNames d insert.columns) ++ ")") ++
    (" VALUES " ++ ", ".intercalate (cells.map fun row ↦ "(" ++ ", ".intercalate row ++ ")")) ++
    Token.spelled d aliasOf after (insert.readClauses (.tokens d))

/-- An INSERT of rows is written in full: there are rows, all of them are written, and each with as
many cells as columns are named. -/
structure InFull (d : Dialect) (aliasOf : Identity → String) (sql : String) (insert : Insert)
    (rows : List (List Expr)) : Prop where
  rows_ne_nil : rows ≠ []
  /-- No row is left out, and none is of another width than the list of names. -/
  cells : ∀ position,
    let cells := insert.spelledCells d aliasOf position rows
    cells.length = rows.length ∧
      ∀ row ∈ cells, row.length = (Column.spelledNames d insert.columns).length
  /-- The names and the rows stand in the text, between what is in front of them and what is
  behind. -/
  shown : ∃ before position behind,
    sql = before ++ insert.spelledWith d aliasOf position rows ++ behind

/-- Rows are written row by row and cell by cell. -/
theorem spelled_read {insert : Insert} {rows : List (List Expr)}
    (hrows : insert.rows = .listed rows) (hcolumns : insert.columns ≠ []) (position : Nat) :
    Token.spelled d aliasOf position (insert.read (.tokens d)) =
      insert.spelledWith d aliasOf position rows := by
  have hadded : insert.rows.read (.tokens d) =
      (Reading.tokens d).text " VALUES " ++
        (Reading.tokens d).commaSeparated (rows.map (NewRows.rowTokens d)) := by
    rw [hrows, NewRows.read, Expr.readRows_eq_map]
    rfl
  have hnames := List.isEmpty_eq_false_iff.mpr hcolumns
  rw [read_eq_parts (r := Reading.tokens d) rfl, hadded]
  simp only [Token.spelled_append, Token.valueCount_append, Column.spelled_readNames, hnames,
    if_neg Bool.false_ne_true, Column.valueCount_readNames, Token.spelled_readText,
    Token.valueCount_readText, Token.spelled_commaSeparated, Token.valueCount_commaSeparated,
    NewRows.spelledEach_rowTokens, Nat.add_zero, Nat.zero_add, Nat.add_assoc, spelledWith,
    spelledCells]

/-- A well-formed INSERT has rows that go with its named columns. -/
theorem WellFormed.fitColumns {insert : Insert} (hformed : insert.WellFormed d) :
    insert.rows.FitColumns insert.columns.length := by
  obtain ⟨ctes, table, columns, rows, conflict, returning⟩ := insert
  exact hformed.1.2.1

theorem WellFormed.inFull {insert : Insert} {rows : List (List Expr)} {sql : String}
    (hformed : insert.WellFormed d) (hrows : insert.rows = .listed rows)
    (hstands : ∃ before position behind,
      sql = before ++ Token.spelled d aliasOf position (insert.read (.tokens d)) ++ behind) :
    insert.InFull d aliasOf sql rows := by
  have hfit := hformed.fitColumns
  rw [hrows] at hfit
  obtain ⟨hcolumns, hsome, hwidths⟩ : insert.columns.length ≠ 0 ∧ rows ≠ [] ∧
      ∀ row ∈ rows, row.length = insert.columns.length := hfit
  refine ⟨hsome, fun position ↦ ⟨?_, fun row hrow ↦ ?_⟩, ?_⟩
  · rw [← List.length_map (f := List.length), spelledCells, NewRows.map_length_spelledCells,
      List.length_map]
  · have hlength := List.mem_map_of_mem (f := List.length) hrow
    rw [spelledCells, NewRows.map_length_spelledCells] at hlength
    obtain ⟨given, hgiven, hsame⟩ := List.mem_map.mp hlength
    rw [← hsame, hwidths given hgiven, Column.spelledNames, List.length_map]
  · obtain ⟨before, position, behind, hsql⟩ := hstands
    rw [spelled_read hrows (List.ne_nil_of_length_pos (Nat.pos_of_ne_zero hcolumns))] at hsql
    exact ⟨before, position, behind, hsql⟩

end Insert

/-! ### Writes of any depth -/

/-- Where a node is rendered, from any state, every UPDATE and every INSERT of rows in it is written
in full. An UPDATE whose columns cannot be split between a query and the values behind it is
refused, from every state, and the state stays as it is. -/
theorem Node.writes_in_full :
    (∀ (node : Node) (before after : RenderState),
      (node.renderer d).run before = .ok () after →
      ∃ added, after.sql d = before.sql d ++ added ∧
        (∀ update, .update update ∈ node.statements →
          update.InFull d after.context.roster.aliasOf added) ∧
        ∀ insert, .insert insert ∈ node.statements → ∀ rows, insert.rows = .listed rows →
          insert.InFull d after.context.roster.aliasOf added rows) ∧
    ∀ update : Update, ¬ update.Splits → ∀ before, ∃ refusal,
      ((Node.statement (.update update)).renderer d).run before = .error refusal before := by
  refine ⟨fun node before after hrun ↦ ?_, fun update ↦ Update.run_of_not_splits⟩
  obtain ⟨added, hadded, hstands⟩ := exists_added_of_run hrun
  refine ⟨added, hadded, fun update hupdate ↦ ?_, fun insert hinsert rows hrows ↦ ?_⟩
  · obtain ⟨hformed, hwithin⟩ := hstands _ hupdate
    exact Update.WellFormed.inFull hformed hwithin
  · obtain ⟨hformed, hwithin⟩ := hstands _ hinsert
    exact Insert.WellFormed.inFull hformed hrows hwithin

/-! ### Rows behind an UPDATE -/

/-- Prices and taxes from a table of prices, and a new state. -/
def remarking : Update :=
  let goods : Table := ⟨⟨0⟩, "goods", none⟩
  let prices : Table := ⟨⟨1⟩, "prices", none⟩
  let current := prices.selectAll.selecting
    [.plain (.column (prices.column "base")), .plain (.column (prices.column "tax"))]
  ((((Update.blank goods).assigning [goods.column "price", goods.column "tax"]).givenQuery
    (.select current)).assign (goods.column "state") (.literal (.text "new"))).returningItems
      [.plain (.column (goods.column "id"))]

/-- The rows of two entries. -/
def entryRows : List (List Expr) :=
  [[.literal (.int 1), .literal (.text "prices")], [.literal (.int 2), .literal (.text "states")]]

/-- Two entries that are added when all goods are remarked. -/
def logging : Insert :=
  let entries : Table := ⟨⟨2⟩, "entries", none⟩
  let remarked : Cte := ⟨⟨3⟩, some "remarked", [], false, .update remarking⟩
  (entryRows.foldl Insert.row ((Insert.blank entries).naming
    [entries.column "day", entries.column "note"])).withCte remarked

/-- The query of `logging`. -/
def logged : Query where
  sql :=
    "WITH \"remarked\" AS (UPDATE \"goods\" AS \"c\" SET (\"price\", \"tax\") = " ++
    "(SELECT \"b\".\"base\", \"b\".\"tax\" FROM \"prices\" AS \"b\"), \"state\" = $1 " ++
    "RETURNING \"c\".\"id\") INSERT INTO \"entries\" AS \"d\" (\"day\", \"note\") " ++
    "VALUES ($2, $3), ($4, $5)"
  params := [.text "new", .int 1, .text "prices", .int 2, .text "states"]

/-- An UPDATE of one column, from a query and two values. -/
def overfilled : Update :=
  let state : Column := ⟨⟨0⟩, "state"⟩
  { remarking.assign state (.literal .null) with columns := [state] }

/-- The entries and the assignments in front of them are written in full. With more values behind
the query than columns, an UPDATE is refused. -/
theorem writes_in_full_logging :
    (Node.statement (.insert logging)).render .postgres = .ok logged ∧
      (∃ aliasOf : Identity → String, remarking.InFull .postgres aliasOf logged.sql ∧
        logging.InFull .postgres aliasOf logged.sql entryRows) ∧
      ∃ refusal, ((Node.statement (.update overfilled)).renderer .postgres).run {} =
        .error refusal {} := by
  have hrender : (Node.statement (.insert logging)).render .postgres = .ok logged := by
    decide +kernel
  refine ⟨hrender, ?_, ?_⟩
  · obtain ⟨after, hrun, hlogged⟩ := Node.run_of_render hrender
    obtain ⟨added, hadded, hupdates, hinserts⟩ :=
      Node.writes_in_full.1 (.statement (.insert logging)) {} after hrun
    have hsql : logged.sql = added := by
      rw [hlogged]
      exact hadded.trans String.empty_append
    rw [hsql]
    refine ⟨after.context.roster.aliasOf, hupdates remarking ?_, hinserts logging ?_ _ rfl⟩
    · exact List.mem_cons_of_mem _ List.mem_cons_self
    · exact List.mem_cons_self
  · refine Node.writes_in_full.2 _ (fun hsplits ↦ ?_) {}
    have hfewer := (hsplits _ _ rfl).1
    exact absurd hfewer (by decide)

end BoundSql
