import BoundSql.Proofs.Writes.ConflictActions

/-!
# Upserts

An upsert is an INSERT with an ON CONFLICT clause that overwrites some columns with those of the
proposed row: the clause that a call for each of these columns builds (`Insert.upsert_eq`). It holds
nothing but texts and names (`ConflictClause.forall_mem_read_overwriting`), so it meets no relation
and binds no value, and a rendered upsert is the rendered INSERT with the text of this clause
between its rows and RETURNING, and with nothing else changed (`Insert.upsert_inserts_clause`).
-/

set_option autoImplicit false
set_option relaxedAutoImplicit false

namespace BoundSql

variable {d : Dialect} {aliasOf : Identity → String}

/-! ### The clause of an upsert -/

namespace ConflictClause

/-- The calls that overwrite columns with those of the proposed row, one for each column. -/
def overwriting (updated : List Column) : List Call :=
  updated.map fun column ↦ .set column (.excluded column.name)

/-- The assignments that overwrite columns. -/
def overwrites (updated : List Column) : List Assignment :=
  updated.map fun column ↦ ⟨column, .excluded column.name⟩

theorem recent_overwriting (updated : List Column) :
    recent (overwriting updated) = overwriting updated := by
  rw [recent, List.rtakeWhile_eq_self_iff]
  exact List.forall_mem_map.mpr fun _ _ ↦ rfl

/-- An upsert assigns to each of its columns what was to be inserted there. -/
theorem assigned_overwriting (updated : List Column) :
    assigned (overwriting updated) = overwrites updated := by
  rw [assigned, recent_overwriting, overwriting, List.filterMap_map]
  exact congrFun List.filterMap_eq_map updated

/-- An upsert has no condition. -/
theorem condition?_overwriting (updated : List Column) :
    condition? (overwriting updated) = none := by
  have hnone : (overwriting updated).filterMap Call.condition? = [] := by
    rw [List.filterMap_eq_nil_iff]
    exact List.forall_mem_map.mpr fun _ _ ↦ rfl
  rw [condition?, recent_overwriting, hnone]
  rfl

theorem loneCondition?_overwriting (updated : List Column) :
    loneCondition? (overwriting updated) = none := by
  rw [loneCondition?, condition?_overwriting, ite_self]

/-! ### Texts and names only -/

section Reading

variable {α : Type} {r : Reading α} {P : α → Prop}
  (htext : ∀ characters, ∀ taken ∈ r.text characters, P taken)
  (hname : ∀ name, ∀ taken ∈ r.name name, P taken)

include htext in
/-- What holds of a comma and of the members of a list holds of all that is read from it. -/
theorem forall_mem_commaSeparated {items : List (List α)}
    (hitems : ∀ item ∈ items, ∀ taken ∈ item, P taken) :
    ∀ taken ∈ r.commaSeparated items, P taken := by
  unfold Reading.commaSeparated
  induction items with
  | nil => nofun
  | cons first rest ih =>
    obtain ⟨hfirst, hrest⟩ := List.forall_mem_cons.mp hitems
    cases rest with
    | nil => exact hfirst
    | cons second others =>
      show ∀ taken ∈ first ++ r.text ", " ++ r.separated ", " (second :: others), P taken
      rw [List.forall_mem_append, List.forall_mem_append]
      exact ⟨⟨hfirst, htext _⟩, ih hrest⟩

include htext hname

theorem forall_mem_readBare (column : Column) : ∀ taken ∈ column.readBare r, P taken := by
  unfold Column.readBare
  split
  · exact htext _
  · exact hname _

theorem forall_mem_readNames (columns : List Column) :
    ∀ taken ∈ Column.readNames r columns, P taken := by
  unfold Column.readNames
  split
  · nofun
  · rw [List.forall_mem_append, List.forall_mem_append]
    refine ⟨⟨htext _, forall_mem_commaSeparated htext ?_⟩, htext _⟩
    exact List.forall_mem_map.mpr fun column _ ↦ forall_mem_readBare htext hname column

theorem forall_mem_read_overwrites (updated : List Column) :
    ∀ item ∈ Assignment.readEach r true (overwrites updated), ∀ taken ∈ item, P taken := by
  rw [Assignment.readEach_eq_map, overwrites, List.map_map]
  refine List.forall_mem_map.mpr fun column _ ↦ ?_
  show ∀ taken ∈ column.readBare r ++ r.text " = " ++ (r.text "EXCLUDED." ++ r.name column.name),
    P taken
  simp only [List.forall_mem_append]
  exact ⟨⟨forall_mem_readBare htext hname column, htext _⟩, htext _, hname _⟩

/-- What holds of texts and of names holds of the clause of an upsert. -/
theorem forall_mem_read_overwriting (target updated : List Column) :
    ∀ taken ∈ (build target (overwriting updated)).read r true, P taken := by
  have hread (conflict : ConflictClause) : conflict.read r true =
      r.text " ON CONFLICT" ++ Column.readNames r conflict.target ++
        conflict.response.read r true := by
    cases conflict
    rfl
  rw [hread, target_build, response_build, assigned_overwriting, condition?_overwriting,
    List.forall_mem_append, List.forall_mem_append]
  refine ⟨⟨htext _, forall_mem_readNames htext hname target⟩, ?_⟩
  split
  · exact htext _
  · rw [ConflictResponse.read, Reading.listClause, List.forall_mem_append]
    refine ⟨?_, List.forall_mem_nil _⟩
    split
    · exact List.forall_mem_nil _
    · rw [List.forall_mem_append]
      exact ⟨htext _,
        forall_mem_commaSeparated htext (forall_mem_read_overwrites htext hname updated)⟩

end Reading

/-- The clause of an upsert meets no relation. -/
theorem read_meetings_overwriting (target updated : List Column) :
    (build target (overwriting updated)).read (.meetings d) true = [] :=
  List.eq_nil_iff_forall_not_mem.mpr
    (forall_mem_read_overwriting (fun _ ↦ nofun) (fun _ ↦ nofun) target updated)

/-- The clause of an upsert binds no value. -/
theorem read_literals_overwriting (target updated : List Column) :
    (build target (overwriting updated)).read .literals true = [] :=
  List.eq_nil_iff_forall_not_mem.mpr
    (forall_mem_read_overwriting (fun _ ↦ nofun) (fun _ ↦ nofun) target updated)

/-- The clause of an upsert binds no value. -/
theorem valueCount_overwriting (target updated : List Column) :
    Token.valueCount ((build target (overwriting updated)).read (.tokens d) true) = 0 := by
  rw [Token.valueCount, List.length_eq_zero_iff, List.flatMap_eq_nil_iff]
  refine forall_mem_read_overwriting (fun characters ↦ ?_) (fun name ↦ ?_) target updated
  · show ∀ token ∈ Token.ofText characters, token.literals = []
    unfold Token.ofText
    split
    · exact List.forall_mem_nil _
    · exact List.forall_mem_singleton.mpr rfl
  · exact List.forall_mem_singleton.mpr rfl

/-! ### The text of the clause -/

/-- The columns that are overwritten, each by the column of the proposed row that has its name. -/
def spelledOverwrites (d : Dialect) (updated : List Column) : List String :=
  updated.map fun column ↦ d.enclose column.name ++ " = EXCLUDED." ++ d.enclose column.name

/-- The text of the clause of an upsert: the target in parentheses, unless it is empty, and the
columns that are overwritten, if there are any. -/
def upsertText (d : Dialect) (target updated : List Column) : String :=
  " ON CONFLICT" ++
    (if target = [] then ""
      else " (" ++ ", ".intercalate (target.map fun column ↦ d.enclose column.name) ++ ")") ++
    (if updated = [] then " DO NOTHING"
      else " DO UPDATE SET " ++ ", ".intercalate (spelledOverwrites d updated))

/-- The target of a clause is spelled as its columns between quotes, and left out where there are
none. -/
theorem spelledTarget_eq {target : List Column} (htarget : ∀ column ∈ target, column.name ≠ "*") :
    spelledTarget d target = " ON CONFLICT" ++
      (if target = [] then ""
        else " (" ++ ", ".intercalate (target.map fun column ↦ d.enclose column.name) ++ ")") := by
  have hnames : Column.spelledNames d target = target.map fun column ↦ d.enclose column.name :=
    List.map_congr_left fun column hcolumn ↦ if_neg (htarget column hcolumn)
  simp only [spelledTarget, hnames, List.isEmpty_iff]

/-- Every assignment of the clause has the same quoted name on both sides. -/
theorem spelledEach_overwriting {updated : List Column}
    (hupdated : ∀ column ∈ updated, column.name ≠ "*") (position : Nat) :
    Token.spelledEach d aliasOf position (assignedTokens d true (overwriting updated)) =
      spelledOverwrites d updated := by
  have htokens (column : Column) : Assignment.read (.tokens d) true
      ⟨column, .excluded column.name⟩ =
        column.readBare (.tokens d) ++ (Reading.tokens d).text " = " ++
          ((Reading.tokens d).text "EXCLUDED." ++ [.name column.name]) := rfl
  have hnone (column : Column) :
      Token.valueCount (Assignment.read (.tokens d) true ⟨column, .excluded column.name⟩) = 0 := by
    simp only [htokens, Token.valueCount_append, Column.valueCount_readBare,
      Token.valueCount_readText, Nat.zero_add]
    rfl
  have hspelled (column : Column) (hcolumn : column ∈ updated) :
      Token.spelled d aliasOf position
          (Assignment.read (.tokens d) true ⟨column, .excluded column.name⟩) =
        d.enclose column.name ++ " = EXCLUDED." ++ d.enclose column.name := by
    have hsign : " = EXCLUDED." = " = " ++ "EXCLUDED." := rfl
    simp only [htokens, hsign, Token.spelled_append, Column.spelled_readBare,
      Token.spelled_readText, Token.spelled_name, if_neg (hupdated column hcolumn),
      String.append_assoc]
  have hvalueless : ∀ item ∈ assignedTokens d true (overwriting updated),
      Token.valueCount item = 0 := by
    rw [assignedTokens, assigned_overwriting, overwrites, List.map_map]
    exact List.forall_mem_map.mpr fun column _ ↦ hnone column
  rw [Token.spelledEach_eq_map hvalueless, assignedTokens, assigned_overwriting, overwrites,
    List.map_map, List.map_map]
  exact List.map_congr_left hspelled

/-- An upsert is spelled as DO NOTHING without columns, and else as its assignments. -/
theorem spelledAction_overwriting {updated : List Column}
    (hupdated : ∀ column ∈ updated, column.name ≠ "*") (position : Nat) :
    spelledAction d aliasOf position true (overwriting updated) =
      if updated = [] then " DO NOTHING"
      else " DO UPDATE SET " ++ ", ".intercalate (spelledOverwrites d updated) := by
  have hempty : (assigned (overwriting updated)).isEmpty = true ↔ updated = [] := by
    rw [assigned_overwriting, overwrites, List.isEmpty_iff, List.map_eq_nil_iff]
  simp only [spelledAction, hempty, spelledEach_overwriting hupdated, condition?_overwriting,
    Option.elim_none, String.append_empty]

end ConflictClause

/-! ### The INSERT with and without the clause -/

namespace Insert

/-- The INSERT without its ON CONFLICT clause. -/
def withoutConflict (insert : Insert) : Insert := { insert with conflict := none }

/-- An upsert replaces the ON CONFLICT clause of the INSERT and nothing else. -/
theorem upsert_eq (insert : Insert) (target updated : List Column) :
    insert.upsert target updated =
      { insert with
        conflict := some (ConflictClause.build target (ConflictClause.overwriting updated)) } := by
  rw [upsert, onConflict, ConflictClause.build, ConflictClause.overwriting, List.foldl_map]
  rfl

/-- The tokens of an INSERT up to its rows. -/
def tokensThroughRows (d : Dialect) (insert : Insert) : List Token :=
  insert.readOpening (.tokens d) ++ Column.readNames (.tokens d) insert.columns ++
    insert.rows.read (.tokens d)

/-- The text of an INSERT up to its rows, behind `position` values. -/
def spelledThroughRows (d : Dialect) (aliasOf : Identity → String) (position : Nat)
    (insert : Insert) : String :=
  Token.spelled d aliasOf position (insert.tokensThroughRows d)

/-- The text of the RETURNING clause of an INSERT that stands behind `position` values. -/
def spelledReturning (d : Dialect) (aliasOf : Identity → String) (position : Nat)
    (insert : Insert) : String :=
  Token.spelled d aliasOf (position + Token.valueCount (insert.tokensThroughRows d))
    ((Reading.tokens d).listClause " RETURNING "
      (ResultItem.readEach (.tokens d) true insert.returning))

/-- Without the clause an INSERT is spelled through its rows, and then its results. -/
theorem spelled_withoutConflict (insert : Insert) (position : Nat) :
    Token.spelled d aliasOf position (insert.withoutConflict.read (.tokens d)) =
      insert.spelledThroughRows d aliasOf position ++
        insert.spelledReturning d aliasOf position := by
  rw [read_eq_parts (r := Reading.tokens d) rfl, Token.spelled_append]
  rfl

/-- With an upsert the clause stands between the rows and the results, and moves no placeholder. -/
theorem spelled_upsert (insert : Insert) {target updated : List Column}
    (htarget : ∀ column ∈ target, column.name ≠ "*")
    (hupdated : ∀ column ∈ updated, column.name ≠ "*") (position : Nat) :
    Token.spelled d aliasOf position ((insert.upsert target updated).read (.tokens d)) =
      insert.spelledThroughRows d aliasOf position ++
        ConflictClause.upsertText d target updated ++
          insert.spelledReturning d aliasOf position := by
  rw [upsert_eq, ConflictClause.spelled_read_insert rfl
    (ConflictClause.loneCondition?_overwriting updated), ConflictClause.spelledInsert]
  simp only [ConflictClause.valueCount_overwriting, Nat.add_zero,
    ConflictClause.spelledTarget_eq htarget, ConflictClause.spelledAction_overwriting hupdated]
  rfl

/-- The clause of an upsert adds nothing to what a reading takes from an INSERT, if the reading
takes nothing from the clause. -/
theorem read_upsert {α : Type} {r : Reading α} (insert : Insert) {target updated : List Column}
    (hclause :
      (ConflictClause.build target (ConflictClause.overwriting updated)).read r true = []) :
    (insert.upsert target updated).read r = insert.withoutConflict.read r := by
  have hread : ConflictClause.read? r true
      (some (ConflictClause.build target (ConflictClause.overwriting updated))) = [] := hclause
  obtain ⟨ctes, table, columns, rows, conflict, returning⟩ := insert
  rw [upsert_eq, withoutConflict, Insert.read, Insert.read, hread]
  rfl

/-- An upsert inserts one clause and changes nothing else. Where an INSERT without its ON CONFLICT
clause and the upsert of it are both rendered, from any state, they lead to the same aliases and
bind the same values, and the text of the upsert is that of the INSERT with the clause between the
rows and RETURNING. To ignore conflicts is to overwrite no column. -/
theorem upsert_inserts_clause {insert : Insert} {target updated : List Column}
    (htarget : ∀ column ∈ target, column.name ≠ "*")
    (hupdated : ∀ column ∈ updated, column.name ≠ "*") {before plain upserted : RenderState}
    (hplain : ((Node.statement (.insert insert.withoutConflict)).renderer d).run before =
      .ok () plain)
    (hupserted : ((Node.statement (.insert (insert.upsert target updated))).renderer d).run before =
      .ok () upserted) :
    upserted.context = plain.context ∧
      upserted.output.values = plain.output.values ∧
      (let aliasOf := plain.context.roster.aliasOf
        let front := insert.spelledThroughRows d aliasOf before.bound
        let returning := insert.spelledReturning d aliasOf before.bound
        plain.sql d = before.sql d ++ (front ++ returning) ∧
          upserted.sql d =
            before.sql d ++ (front ++ ConflictClause.upsertText d target updated ++ returning)) ∧
      insert.orIgnore target = insert.upsert target [] := by
  have hcontext : upserted.context = plain.context := by
    rw [Node.context_of_run hupserted, Node.context_of_run hplain]
    exact congrArg before.context.meet
      (insert.read_upsert (ConflictClause.read_meetings_overwriting target updated))
  have hvalues : upserted.output.values = plain.output.values := by
    rw [Node.values_of_run hupserted, Node.values_of_run hplain]
    exact congrArg (before.output.values ++ ·)
      (insert.read_upsert (ConflictClause.read_literals_overwriting target updated))
  refine ⟨hcontext, hvalues, ⟨?_, ?_⟩, rfl⟩
  · exact (Node.sql_of_run hplain).trans
      (congrArg (before.sql d ++ ·) (insert.spelled_withoutConflict before.bound))
  · rw [← hcontext]
    exact (Node.sql_of_run hupserted).trans
      (congrArg (before.sql d ++ ·) (insert.spelled_upsert htarget hupdated before.bound))

end Insert

/-! ### Offers that overwrite goods -/

/-- Cheap offers are taken over as goods, and a part of their price is returned. What has been said
about conflicts before is given up by an upsert. -/
def takingOffers : Insert :=
  let goods : Table := ⟨⟨0⟩, "goods", none⟩
  let offers : Table := ⟨⟨1⟩, "offers", none⟩
  let cheap := (offers.selectAll.selecting
    [.plain (.column (offers.column "name")), .plain (.column (offers.column "price"))]).filtered
      (.binary .lt (.column (offers.column "price")) (.literal (.int 5)))
  ((((Insert.blank goods).naming [goodsColumn "name", goodsColumn "price"]).fromQuery
    (.select cheap)).onConflict .any).returningItems
      [.plain (.binary .mul (.column (goodsColumn "price")) (.literal (.int 100)))]

/-- The query of `takingOffers` with a clause between its rows and RETURNING. -/
def takenOffers (clause : String) : Query where
  sql :=
    "INSERT INTO \"goods\" AS \"b\" (\"name\", \"price\") " ++
    "SELECT \"a\".\"name\", \"a\".\"price\" FROM \"offers\" AS \"a\" " ++
    "WHERE (\"a\".\"price\" < $1)" ++ clause ++ " RETURNING (\"b\".\"price\" * $2)"
  params := [.int 5, .int 100]

/-- The offers are taken over without a clause, and with the clause of an upsert, which overwrites
the prices of goods that are there. -/
theorem upsert_inserts_clause_takingOffers :
    let target := [goodsColumn "name"]
    let updated := [goodsColumn "price"]
    let clause :=
      " ON CONFLICT (\"name\") DO UPDATE SET \"price\" = EXCLUDED.\"price\""
    (∀ column ∈ target, column.name ≠ "*") ∧ (∀ column ∈ updated, column.name ≠ "*") ∧
      ConflictClause.upsertText .postgres target updated = clause ∧
      ∃ plain upserted : RenderState,
        ((Node.statement (.insert takingOffers.withoutConflict)).renderer .postgres).run {} =
          .ok () plain ∧
        ((Node.statement (.insert (takingOffers.upsert target updated))).renderer .postgres).run
          {} = .ok () upserted ∧
        takenOffers "" = plain.output.toQuery .numeric ∧
        takenOffers clause = upserted.output.toQuery .numeric ∧
        upserted.context = plain.context ∧
        upserted.output.values = plain.output.values ∧
        ∃ front returning : String,
          plain.sql .postgres = "" ++ (front ++ returning) ∧
          upserted.sql .postgres = "" ++ (front ++ clause ++ returning) := by
  intro target updated clause
  have htarget : ∀ column ∈ target, column.name ≠ "*" := by decide
  have hupdated : ∀ column ∈ updated, column.name ≠ "*" := by decide
  have htext : ConflictClause.upsertText .postgres target updated = clause := by decide +kernel
  have hplain : (Node.statement (.insert takingOffers.withoutConflict)).render .postgres =
      .ok (takenOffers "") := by decide +kernel
  have hupserted :
      (Node.statement (.insert (takingOffers.upsert target updated))).render .postgres =
        .ok (takenOffers clause) := by decide +kernel
  obtain ⟨plain, hplainRun, hplainQuery⟩ := Node.run_of_render hplain
  obtain ⟨upserted, hupsertedRun, hupsertedQuery⟩ := Node.run_of_render hupserted
  obtain ⟨hcontext, hvalues, ⟨hplainSql, hupsertedSql⟩, -⟩ :=
    Insert.upsert_inserts_clause (d := .postgres) htarget hupdated hplainRun hupsertedRun
  rw [htext] at hupsertedSql
  exact ⟨htarget, hupdated, htext, plain, upserted, hplainRun, hupsertedRun, hplainQuery,
    hupsertedQuery, hcontext, hvalues, _, _, hplainSql, hupsertedSql⟩

end BoundSql
