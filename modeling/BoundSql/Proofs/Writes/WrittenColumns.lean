import BoundSql.Proofs.Nesting.Standing
import BoundSql.Proofs.Reading.Spelling
import BoundSql.Proofs.Writes.Outline
import BoundSql.Tree.Builder

/-!
# How written columns are written

At every place where a column is written to stands the name of the column between quotes, or the
wildcard if this is its name; nothing else is rendered there (`Node.written_columns`). The places
are those that the outlines of statements mark.
-/

set_option autoImplicit false
set_option relaxedAutoImplicit false

namespace BoundSql

open Marked WriteMark

variable {d : Dialect}

theorem ConflictClause.writable_of_mem {conflict : ConflictClause}
    (hformed : conflict.WellFormed d) {assigned : Column}
    (hassigned : assigned ∈ conflict.target ++ conflict.response.writtenColumns) :
    assigned.Writable d := by
  obtain ⟨target, response⟩ := conflict
  rcases List.mem_append.mp hassigned with htarget | hassigned
  · exact hformed.1 assigned htarget
  · cases response with
    | doNothing => cases hassigned
    | doUpdate assignments filter =>
      obtain ⟨⟨written, given⟩, hassignment, rfl⟩ := List.mem_map.mp hassigned
      have hassignments : Assignment.AllWellFormed d assignments := hformed.2.1
      exact (hassignments.of_mem hassignment).1

/-- The columns that a well-formed statement writes to can be written. -/
theorem Statement.writable_of_mem_writtenColumns {statement : Statement}
    (hformed : statement.WellFormed d) {assigned : Column}
    (hassigned : assigned ∈ statement.writtenColumns) : assigned.Writable d := by
  cases statement with
  | select statement => cases hassigned
  | delete statement => cases hassigned
  | update statement =>
    obtain ⟨ctes, table, columns, values, sources, filter, returning⟩ := statement
    obtain ⟨-, -, -, hcolumns, -⟩ := hformed
    exact hcolumns assigned hassigned
  | insert statement =>
    obtain ⟨ctes, table, columns, rows, conflict, returning⟩ := statement
    obtain ⟨-, -, -, hcolumns, -, hconflict, -⟩ := hformed
    rcases List.mem_append.mp hassigned with hnamed | hresolved
    · exact hcolumns assigned hnamed
    · cases conflict with
      | none => cases hresolved
      | some present => exact ConflictClause.writable_of_mem hconflict hresolved

/-- The name of a column is written between quotes, or it is written as the wildcard. -/
theorem Column.spelled_readBare (aliasOf : Identity → String) (position : Nat) (column : Column) :
    Token.spelled d aliasOf position (column.readBare (.tokens d)) =
      if column.name = "*" then "*" else d.enclose column.name := by
  by_cases hstar : column.name = "*"
  · have hwildcard : column.isWildcard = true := by simp [Column.isWildcard, hstar]
    rw [readBare, hwildcard, if_pos hstar]
    exact Token.spelled_text "*" position
  · have hproper : column.isWildcard = false := by simp [Column.isWildcard, hstar]
    rw [readBare, hproper, if_neg hstar]
    exact Token.spelled_name column.name position

namespace Node

/-- The outlines of all statements of a node, and of a node that is an assignment or an ON CONFLICT
clause of its own. -/
def writeOutlines (d : Dialect) (node : Node) : List (List WriteMark) :=
  (match node with
    | .assignment tree => [tree.outline d false]
    | .conflict tree => [tree.outline d false]
    | _ => []) ++
  node.statements.map (Statement.writeOutline d)

/-- The outlines of a well-formed node stand in its text, and the columns that they mark can be
written. -/
theorem within_of_mem_writeOutlines {node : Node} (hformed : node.WellFormed d)
    {outline : List WriteMark} (houtline : outline ∈ node.writeOutlines d) :
    outline.flatMap (WriteMark.tokens d) <:+: node.tokens d ∧
      ∀ assigned ∈ marked outline, assigned.Writable d := by
  rcases List.mem_append.mp houtline with hown | hinner
  · cases node with
    | assignment tree =>
      obtain rfl := List.mem_singleton.mp hown
      obtain ⟨assigned, given⟩ := tree
      rw [Assignment.flatMap_tokens_outline]
      refine ⟨List.infix_rfl, ?_⟩
      rw [Assignment.marked_outline]
      exact List.forall_mem_singleton.mpr hformed.1
    | conflict tree =>
      obtain rfl := List.mem_singleton.mp hown
      rw [ConflictClause.flatMap_tokens_outline, ConflictClause.marked_outline]
      exact ⟨List.infix_rfl, fun assigned ↦ ConflictClause.writable_of_mem hformed⟩
    | _ => cases hown
  · obtain ⟨inner, hlisted, rfl⟩ := List.mem_map.mp hinner
    have hstands := node.stands_of_mem_statements (r := Reading.tokens d) rfl hlisted hformed
    rw [Statement.flatMap_tokens_writeOutline hstands.formed,
      Statement.marked_writeOutline hstands.formed]
    exact ⟨hstands.within, fun assigned ↦
      Statement.writable_of_mem_writtenColumns hstands.formed⟩

/-- Where a node is rendered, the outlines of its statements stand in the text and mark every column
that is written to, in the order of the text. Each of these columns is written as its name between
quotes, unless its name is the wildcard. -/
theorem written_columns {node : Node} {query : Query} (hrender : node.render d = .ok query) :
    (∀ inner ∈ node.statements,
      inner.writeOutline d ∈ node.writeOutlines d ∧
        marked (inner.writeOutline d) = inner.writtenColumns) ∧
    ∀ outline ∈ node.writeOutlines d,
      (∃ before position behind,
        query.sql = before ++
          Token.spelled d (node.aliasOf d) position (outline.flatMap (WriteMark.tokens d)) ++
            behind) ∧
      ∀ assigned, .column assigned ∈ outline → assigned.name ≠ "*" →
        d.Quotable assigned.name ∧
          ∀ position, Token.spelled d (node.aliasOf d) position
            ((WriteMark.column assigned).tokens d) = d.enclose assigned.name := by
  have hformed := (accepted_layout_iff node).mp (accepted_of_render hrender)
  refine ⟨fun inner hinner ↦ ⟨?_, ?_⟩, fun outline houtline ↦ ?_⟩
  · exact List.mem_append_right _ (List.mem_map.mpr ⟨inner, hinner, rfl⟩)
  · have hstands := node.stands_of_mem_statements (r := Reading.tokens d) rfl hinner hformed
    exact Statement.marked_writeOutline hstands.formed
  · obtain ⟨hwithin, hwritable⟩ := within_of_mem_writeOutlines hformed houtline
    refine ⟨exists_sql_eq_of_within hrender hwithin, fun assigned hassigned hproper ↦ ?_⟩
    have hcolumn : assigned.Writable d := hwritable assigned (mem_marked hassigned)
    refine ⟨hcolumn.resolve_left hproper, fun position ↦ ?_⟩
    rw [WriteMark.tokens, Marked.tokens, Column.spelled_readBare, if_neg hproper]

end Node

/-! ### Columns that are named, and all columns -/

/-- A new article, or a new price for an article that is there. -/
def upserting : Statement :=
  let goods : Table := ⟨⟨0⟩, "goods", none⟩
  .insert ((((Insert.blank goods).naming [goods.column "name", goods.column "price"]).row
    [.literal (.text "tea"), .literal (.int 5)]).upsert
      [goods.column "name"] [goods.column "price"])

/-- The query of `upserting`. -/
def upserted : Query where
  sql :=
    "INSERT INTO \"goods\" AS \"a\" (\"name\", \"price\") VALUES ($1, $2) " ++
    "ON CONFLICT (\"name\") DO UPDATE SET \"price\" = EXCLUDED.\"price\""
  params := [.text "tea", .int 5]

theorem written_columns_upserting :
    (Node.statement upserting).render .postgres = .ok upserted ∧
      (marked (upserting.writeOutline .postgres)).map Column.name =
        ["name", "price", "name", "price"] ∧
      ∀ assigned, .column assigned ∈ upserting.writeOutline .postgres → assigned.name ≠ "*" →
        Dialect.postgres.Quotable assigned.name := by
  have hrender : (Node.statement upserting).render .postgres = .ok upserted := by decide +kernel
  obtain ⟨houtlines, hcolumns⟩ := Node.written_columns hrender
  obtain ⟨hlisted, hmarked⟩ := houtlines upserting List.mem_cons_self
  refine ⟨hrender, ?_, fun assigned hassigned hproper ↦ ?_⟩
  · rw [hmarked]
    rfl
  · exact ((hcolumns _ hlisted).2 assigned hassigned hproper).1

/-- An UPDATE that assigns a value to all columns. -/
def levelling : Statement :=
  let goods : Table := ⟨⟨0⟩, "goods", none⟩
  .update ((Update.blank goods).assign goods.star (.literal (.int 5)))

/-- The query of `levelling`. -/
def levelled : Query where
  sql := "UPDATE \"goods\" AS \"a\" SET * = $1"
  params := [.int 5]

/-- The wildcard stands where a column is assigned to. -/
theorem levelling_assigns_wildcard :
    (Node.statement levelling).render .postgres = .ok levelled ∧
      .column ⟨⟨0⟩, "*"⟩ ∈ levelling.writeOutline .postgres ∧
      Token.spelled .postgres ((Node.statement levelling).aliasOf .postgres) 0
        ((WriteMark.column ⟨⟨0⟩, "*"⟩).tokens .postgres) = "*" := by
  refine ⟨by decide +kernel, ?_, rfl⟩
  exact List.mem_append_left _ (List.mem_append_right _ List.mem_cons_self)

end BoundSql
