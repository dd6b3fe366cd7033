import BoundSql.Proofs.FailedStatements
import BoundSql.Proofs.Scopes.Rendering

/-!
# Targets without an alias

A dialect may leave the target of an INSERT without an alias. Columns of the target are written
behind its alias nevertheless, in a RETURNING clause, in the rows and in the query that yields them.
Only an ON CONFLICT clause is refused. `Insert.dangling_iff` says when the alias of the target is
left undeclared: exactly if a column of the target stands in an expression and no FROM, USING or
JOIN position, and no UPDATE or DELETE, lists the target as a source of rows of its own.
-/

set_option autoImplicit false
set_option relaxedAutoImplicit false

namespace BoundSql

/-- The alias of a relation stands in front of a column, and no part of the text declares it. -/
def Mark.Dangling (relation : Identity) (outline : List Mark) : Prop :=
  .reference relation ∈ flatAll outline ∧ .declaration relation ∉ flatAll outline

namespace Occurrence

/-- The relation whose column stands at the place inside an expression. -/
def column? : Occurrence → Option Identity
  | column relation => some relation
  | _ => none

/-- The relation that the place lists as a source of rows or as the target of an UPDATE or
DELETE. -/
def sourced? : Occurrence → Option Identity
  | table source => some source.id
  | item relation => some relation
  | _ => none

/-- The relations with a column inside an expression, at any depth. -/
def columns (occurrences : List Occurrence) : List Identity :=
  (flatAll occurrences).filterMap column?

/-- The relations that a statement at any depth lists as sources of rows or has as the target of an
UPDATE or DELETE. -/
def sourced (occurrences : List Occurrence) : List Identity :=
  (flatAll occurrences).filterMap sourced?

variable {d : Dialect} {relation : Identity}

/-- A relation has columns exactly if some occurrence refers to its alias. -/
theorem mem_columns {occurrences : List Occurrence} :
    relation ∈ columns occurrences ↔
      ∃ occurrence ∈ flatAll occurrences, .reference relation ∈ occurrence.marks d := by
  have hplace (occurrence : Occurrence) :
      occurrence.column? = some relation ↔ .reference relation ∈ occurrence.marks d := by
    cases occurrence with
    | insertTarget source =>
      simp only [column?, marks]
      split <;> simp
    | _ => simp [column?, marks, eq_comm]
  simp only [columns, List.mem_filterMap, hplace]

/-- Where targets have no alias, a relation is a source exactly if some occurrence declares its
alias. -/
theorem mem_sourced (haliases : d.aliasesInsert = false) {occurrences : List Occurrence} :
    relation ∈ sourced occurrences ↔
      ∃ occurrence ∈ flatAll occurrences, .declaration relation ∈ occurrence.marks d := by
  have hplace (occurrence : Occurrence) :
      occurrence.sourced? = some relation ↔ .declaration relation ∈ occurrence.marks d := by
    cases occurrence <;> simp [sourced?, marks, haliases, eq_comm]
  simp only [sourced, List.mem_filterMap, hplace]

end Occurrence

/-- Which aliases a rendered statement leaves undeclared can be told from the tree. -/
theorem Statement.dangling_outline_iff {d : Dialect} (haliases : d.aliasesInsert = false)
    (statement : Statement) (haccepted : (statement.layout d).Accepted d) (relation : Identity) :
    Mark.Dangling relation ((Node.statement statement).outline d) ↔
      relation ∈ Occurrence.columns statement.occurrences ∧
        relation ∉ Occurrence.sourced statement.occurrences := by
  rw [Mark.Dangling, Statement.mem_flatAll_outline haccepted rfl,
    Statement.mem_flatAll_outline haccepted rfl, ← Occurrence.mem_columns,
    ← Occurrence.mem_sourced haliases]

/-- A conflict clause exists only where targets have aliases. -/
theorem Insert.conflict_eq_none {d : Dialect} (haliases : d.aliasesInsert = false) {insert : Insert}
    (haccepted : (insert.layout d).Accepted d) : insert.conflict = none := by
  have hfit : insert.error? d = none := by
    rw [Insert.layout_eq, Layout.accepted_append, Layout.accepted_require] at haccepted
    exact haccepted.1
  obtain ⟨-, hconflict⟩ := Option.or_eq_none_iff.mp hfit
  cases hclause : insert.conflict with
  | none => rfl
  | some conflict => simp [hclause, haliases] at hconflict

/-- An INSERT under a dialect without aliases for its target leaves the alias of the target
undeclared exactly if a column of the target stands in an expression, at any depth, and the target
is listed nowhere as a source of rows. It has no ON CONFLICT clause. -/
theorem Insert.dangling_iff {d : Dialect} {insert : Insert} {query : Query}
    (haliases : d.aliasesInsert = false)
    (hrender : (Node.statement (.insert insert)).render d = .ok query) :
    let node := Node.statement (.insert insert)
    query.sql =
        Part.spell d.paramStyle 0
          (((Mark.flatAll (node.outline d)).flatMap Mark.tokens).map
            (Token.part d (node.aliasOf d))) ∧
      insert.conflict = none ∧
      (Mark.Dangling insert.table.id (node.outline d) ↔
        insert.table.id ∈ Occurrence.columns insert.occurrences ∧
          insert.table.id ∉ Occurrence.sourced insert.occurrences) := by
  intro node
  have haccepted : (insert.layout d).Accepted d := Node.accepted_of_render hrender
  refine ⟨Node.sql_eq_spell_outline hrender, Insert.conflict_eq_none haliases haccepted, ?_⟩
  exact Statement.dangling_outline_iff haliases (.insert insert) haccepted _

/-! ### Columns of a target without an alias -/

/-- A new row with a price twice as high as the one that it has by default. -/
def doubling : Insert :=
  let goods : Table := ⟨⟨0⟩, "goods", none⟩
  ⟨[], goods, [goods.column "name", goods.column "price"],
    .listed
      [[.literal (.text "tea"), .binary .mul (.column (goods.column "base")) (.literal (.int 2))]],
    none, []⟩

/-- The query of `doubling` under MySQL. -/
def doubled : Query where
  sql :=
    "INSERT INTO \x60goods\x60 (\x60name\x60, \x60price\x60) " ++
    "VALUES (%s, (\x60a\x60.\x60base\x60 * %s))"
  params := [.text "tea", .int 2]

/-- A new row whose number is asked for. -/
def announcing : Insert :=
  let goods : Table := ⟨⟨0⟩, "goods", none⟩
  ⟨[], goods, [goods.column "name"], .listed [[.literal (.int 5)]], none,
    [.plain (.column (goods.column "id"))]⟩

/-- The query of `announcing` where targets have no aliases. -/
def announced : Query where
  sql := "INSERT INTO \"goods\" (\"name\") VALUES (%s) RETURNING \"a\".\"id\""
  params := [.int 5]

theorem render_doubling_announcing :
    (Node.statement (.insert doubling)).render .mysql = .ok doubled ∧
      (Node.statement (.insert announcing)).render { aliasesInsert := false } = .ok announced := by
  decide +kernel

theorem dangling_doubling :
    (Node.statement (.insert doubling)).render .mysql = .ok doubled ∧
      Mark.Dangling ⟨0⟩ ((Node.statement (.insert doubling)).outline .mysql) := by
  obtain ⟨hrender, -⟩ := render_doubling_announcing
  have hdangling := (Insert.dangling_iff rfl hrender).2.2
  exact ⟨hrender, hdangling.mpr (by decide)⟩

/-- A RETURNING clause refers to an alias that nothing declares. -/
theorem announcing_leaves_alias_undeclared :
    let bare : Dialect := { aliasesInsert := false }
    (Node.statement (.insert announcing)).render bare = .ok announced ∧
      Mark.Dangling ⟨0⟩ ((Node.statement (.insert announcing)).outline bare) := by
  intro bare
  obtain ⟨-, hrender⟩ := render_doubling_announcing
  have haccepted := Node.accepted_of_render hrender
  have hdangling := Statement.dangling_outline_iff rfl (.insert announcing) haccepted ⟨0⟩
  exact ⟨hrender, hdangling.mpr (by decide)⟩

end BoundSql
