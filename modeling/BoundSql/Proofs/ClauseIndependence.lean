import BoundSql.Proofs.Yields

/-!
# Later clauses leave earlier ones alone

The clauses of a statement are gone through in one order and written in another. In the order in
which they are gone through, every clause writes a piece of its own, in the context that the clauses
before it leave (`Clause.Contribute`), and the statement puts these pieces together in the order of
its text (`Statement.exists_madeOf_of_run`). So a clause contributes the same piece to two
statements that agree on it and on the clauses before it, whatever their later clauses are
(`Statement.clauses_kept`): adding to the last clause of a statement moves no alias of an earlier
one, although the last clause may be the first one in the text.
-/

set_option autoImplicit false
set_option relaxedAutoImplicit false

namespace BoundSql

open Layout

variable {d : Dialect}

/-! ### Clauses -/

/-- A clause of a statement, with all that it holds. -/
inductive Clause where
  /-- The WITH list. -/
  | definitions (ctes : List Cte)
  /-- The sources of rows behind a keyword. -/
  | origins (keyword : String) (sources : List RowSource)
  /-- The WHERE condition. -/
  | filter (condition : Option Expr)
  /-- The GROUP BY keys. -/
  | grouping (keys : List Expr)
  /-- The HAVING condition. -/
  | having (condition : Option Expr)
  /-- The ORDER BY keys. -/
  | ordering (terms : List OrderTerm)
  /-- The select list. -/
  | selection (items : List ResultItem)
  /-- The assigned columns and their values. -/
  | assignments (columns : List Column) (values : NewValues)
  /-- The rows of an INSERT. -/
  | rows (added : NewRows)
  /-- The ON CONFLICT clause. -/
  | conflict (present : Option ConflictClause)
  /-- The RETURNING list. -/
  | returning (items : List ResultItem)
  /-- The target of an UPDATE or a DELETE. -/
  | target (table : Table)
  /-- The target of an INSERT. -/
  | insertTarget (table : Table)
  /-- The named columns of an INSERT. -/
  | named (columns : List Column)

namespace Clause

/-- The layout of a clause. -/
def layout (d : Dialect) : Clause → Layout
  | definitions ctes => Cte.listLayout (ctes.any Cte.recursive) (Cte.layouts d ctes)
  | origins keyword sources => listClause keyword (RowSource.layouts d sources)
  | filter condition => clause " WHERE " (Expr.layout? d condition)
  | grouping keys => listClause " GROUP BY " (Expr.layouts d keys)
  | having condition => clause " HAVING " (Expr.layout? d condition)
  | ordering terms => listClause " ORDER BY " (OrderTerm.layouts d terms)
  | selection items =>
    if items.isEmpty then text "*" else commaSeparated (ResultItem.layouts d items)
  | assignments columns values => values.layout d columns
  | rows added => added.layout d
  | conflict present => ConflictClause.layout? d present
  | returning items =>
    require (ResultItem.returningError? d items) ++
      listClause " RETURNING " (ResultItem.layouts d items)
  | target table => table.layout d
  | insertTarget table => if d.aliasesInsert then table.layout d else table.qualifiedName
  | named columns =>
    if columns.isEmpty then nothing else text " (" ++ Column.listLayout d "" columns ")"

/-- Each clause writes its piece in the context that the clauses before it leave. -/
inductive Contribute (d : Dialect) : Context → List Clause → List Piece → Prop
  /-- No clause is left. -/
  | nil (before : Context) : Contribute d before [] []
  /-- The first clause writes the first piece. -/
  | cons {before after : Context} {first : Clause} {piece : Piece} {rest : List Clause}
    {pieces : List Piece} (hfirst : (first.layout d).Yields d before piece after)
    (hrest : Contribute d after rest pieces) :
    Contribute d before (first :: rest) (piece :: pieces)

variable {before : Context} {clauses others : List Clause} {pieces otherPieces : List Piece}

/-- Every clause contributes one piece. -/
theorem Contribute.length_eq (hpieces : Contribute d before clauses pieces) :
    pieces.length = clauses.length := by
  induction hpieces with
  | nil before => rfl
  | cons hfirst hrest ih => rw [List.length_cons, List.length_cons, ih]

/-- What a clause contributes depends on the clauses up to it and on no others. -/
theorem Contribute.take_eq (hpieces : Contribute d before clauses pieces)
    (hothers : Contribute d before others otherPieces) {cut : Nat}
    (hagree : clauses.take cut = others.take cut) : pieces.take cut = otherPieces.take cut := by
  induction hpieces generalizing others otherPieces cut with
  | nil before =>
    cases cut with
    | zero => rfl
    | succ cut =>
      cases hothers with
      | nil => rfl
      | cons hfirst hrest => cases hagree
  | cons hfirst hrest ih =>
    cases cut with
    | zero => rfl
    | succ cut =>
      cases hothers with
      | nil => cases hagree
      | cons hother hothers =>
        simp only [List.take_succ_cons, List.cons.injEq] at hagree
        obtain ⟨rfl, hagree⟩ := hagree
        -- The clause is the same and so is its context, so it does the same.
        obtain ⟨-, hdone⟩ := EStateM.Result.ok.inj (hfirst.symm.trans hother)
        obtain ⟨rfl, rfl⟩ := RenderState.mk.inj hdone
        rw [List.take_succ_cons, List.take_succ_cons, ih hothers hagree]

end Clause

/-! ### Statements -/

/-- A place in the text of a statement. -/
inductive Slot where
  /-- Text that does not belong to a clause. -/
  | text (characters : String)
  /-- The clause that is gone through at this place. -/
  | clause (place : Nat)

namespace Slot

/-- What stands in a slot, from the pieces of the clauses. -/
def piece (pieces : List Piece) : Slot → Piece
  | text characters => (∅ : Piece).pushText characters
  | clause place => pieces.getD place ∅

/-- The clause that stands in a slot, if there is one. -/
def place? : Slot → Option Nat
  | text _ => none
  | clause place => some place

/-- Fills the slots one after the other, behind what is written already. -/
def fill (pieces : List Piece) (slots : List Slot) (written : Piece) : Piece :=
  slots.foldl (fun before slot ↦ before ++ slot.piece pieces) written

end Slot

namespace Statement

/-- The clauses of a statement in the order in which they are gone through. -/
def clauses : Statement → List Clause
  | .select ⟨ctes, _, columns, sources, filter, grouping, having, ordering, _, _⟩ =>
    [.definitions ctes, .origins " FROM " sources, .filter filter, .grouping grouping,
      .having having, .ordering ordering, .selection columns]
  | .update ⟨ctes, table, columns, values, sources, filter, returning⟩ =>
    [.definitions ctes, .origins " FROM " sources, .assignments columns values, .filter filter,
      .returning returning, .target table]
  | .insert ⟨ctes, table, columns, rows, conflict, returning⟩ =>
    [.definitions ctes, .rows rows, .conflict conflict, .returning returning, .insertTarget table,
      .named columns]
  | .delete ⟨ctes, table, sources, filter, returning⟩ =>
    [.definitions ctes, .origins " USING " sources, .filter filter, .returning returning,
      .target table]

/-- The clauses of a statement in the order of the text, with the words between them. -/
def slots (d : Dialect) : Statement → List Slot
  | .select statement =>
    [.clause 0, .text (if statement.distinct then "SELECT DISTINCT " else "SELECT "), .clause 6,
      .clause 1, .clause 2, .clause 3, .clause 4, .clause 5,
      .text (d.bounds statement.limit statement.offset)]
  | .update _ =>
    [.clause 0, .text "UPDATE ", .clause 5, .text " SET ", .clause 2, .clause 1, .clause 3,
      .clause 4]
  | .insert _ =>
    [.clause 0, .text "INSERT INTO ", .clause 4, .clause 5, .clause 1, .clause 2, .clause 3]
  | .delete _ => [.clause 0, .text "DELETE FROM ", .clause 4, .clause 1, .clause 2, .clause 3]

/-- Every clause has its place in the text, and no clause has two. -/
theorem places_perm (statement : Statement) :
    ((statement.slots d).filterMap Slot.place?).Perm (List.range statement.clauses.length) := by
  cases statement with
  | select statement =>
    cases statement
    show [0, 6, 1, 2, 3, 4, 5].Perm (List.range 7)
    decide
  | update statement =>
    cases statement
    show [0, 5, 2, 1, 3, 4].Perm (List.range 6)
    decide
  | insert statement =>
    cases statement
    show [0, 4, 5, 1, 2, 3].Perm (List.range 6)
    decide
  | delete statement =>
    cases statement
    show [0, 4, 1, 2, 3].Perm (List.range 5)
    decide

end Statement

/-! ### Putting clauses together -/

/-- A piece that begins with nothing is written as it would be without it. -/
theorem Piece.append_empty_append (first second : Piece) :
    first ++ ((∅ : Piece) ++ second) = first ++ second := by
  rw [← append_assoc, append_empty]

namespace Statement

/-- The clauses of a statement contribute the pieces, and these make up the text of the statement,
whatever stands before it. -/
def Assembles (d : Dialect) (statement : Statement) (before : Context) (piece : Piece) : Prop :=
  ∃ pieces, Clause.Contribute d before.inner statement.clauses pieces ∧
    ∀ written : Piece, written ++ piece = Slot.fill pieces (statement.slots d) written

variable {before after : Context} {piece : Piece}

/-- A SELECT is assembled from the pieces of its clauses. -/
theorem assembles_select {statement : Select}
    (hyields : (statement.layout d).Yields d before piece after) :
    (Statement.select statement).Assembles d before piece := by
  obtain ⟨ctes, distinct, columns, sources, filter, grouping, having, ordering, limit, offset⟩ :=
    statement
  obtain ⟨_, hframe, -⟩ := yields_scope_iff.mp hyields
  obtain ⟨_, _, _, opening, _, _, _, hopening, hbody, hfront, hlink, rfl⟩ :=
    yields_frame_iff.mp hframe
  simp only [yields_append_iff] at hbody hfront
  obtain ⟨_, _, _, ⟨_, _, ordered, ⟨_, _, kept, ⟨_, _, grouped, ⟨origins, _, admitted, horigins,
    hadmitted, rfl⟩, hgrouped, rfl⟩, hkept, rfl⟩, hordered, rfl⟩, hbounds, rfl⟩ := hbody
  obtain ⟨_, _, selected, hkeyword, hselected, rfl⟩ := hfront
  obtain ⟨rfl, rfl⟩ := yields_text hbounds
  obtain ⟨rfl, rfl⟩ := yields_text hkeyword
  obtain ⟨rfl, rfl⟩ := yields_nothing hlink
  refine ⟨[opening, origins, admitted, grouped, kept, ordered, selected],
    .cons hopening <| .cons horigins <| .cons hadmitted <| .cons hgrouped <| .cons hkept <|
      .cons hordered <| .cons hselected <| .nil _, fun written ↦ ?_⟩
  simp only [Slot.fill, slots, List.foldl, Slot.piece, List.getD_cons_zero, List.getD_cons_succ,
    Piece.append_assoc, Piece.append_empty_append]

/-- An UPDATE is assembled from the pieces of its clauses. -/
theorem assembles_update {statement : Update}
    (hyields : (statement.layout d).Yields d before piece after) :
    (Statement.update statement).Assembles d before piece := by
  obtain ⟨ctes, table, columns, values, sources, filter, returning⟩ := statement
  obtain ⟨_, _, _, hfits, hscope, rfl⟩ := yields_append_iff.mp hyields
  obtain ⟨rfl, rfl⟩ := yields_require hfits
  obtain ⟨_, hframe, -⟩ := yields_scope_iff.mp hscope
  obtain ⟨_, _, _, opening, _, _, _, hopening, hbody, hfront, hlink, rfl⟩ :=
    yields_frame_iff.mp hframe
  simp only [yields_append_iff] at hbody hfront
  obtain ⟨_, _, listed, ⟨_, _, _, ⟨_, _, admitted, hassigned, hadmitted, rfl⟩, hreturning, rfl⟩,
    hlisted, rfl⟩ := hbody
  obtain ⟨_, _, _, ⟨_, _, target, hkeyword, htarget, rfl⟩, hset, rfl⟩ := hfront
  -- The sources are met before the assignments and written behind them.
  obtain ⟨_, _, _, _, origins, assigned, _, hnothing, horigins, hassigned, hbare, rfl⟩ :=
    yields_frame_iff.mp hassigned
  obtain ⟨rfl, rfl⟩ := yields_nothing hnothing
  obtain ⟨rfl, rfl⟩ := yields_nothing hbare
  obtain ⟨rfl, rfl⟩ := yields_text hkeyword
  obtain ⟨rfl, rfl⟩ := yields_text hset
  obtain ⟨rfl, rfl⟩ := yields_nothing hlink
  have hreturned := yields_append_iff.mpr ⟨_, _, listed, hreturning, hlisted, rfl⟩
  refine ⟨[opening, origins, assigned, admitted, _, target],
    .cons hopening <| .cons horigins <| .cons hassigned <| .cons hadmitted <|
      .cons hreturned <| .cons htarget <| .nil _, fun written ↦ ?_⟩
  simp only [Slot.fill, slots, List.foldl, Slot.piece, List.getD_cons_zero, List.getD_cons_succ,
    Piece.append_assoc, Piece.append_empty_append]

/-- An INSERT is assembled from the pieces of its clauses. -/
theorem assembles_insert {statement : Insert}
    (hyields : (statement.layout d).Yields d before piece after) :
    (Statement.insert statement).Assembles d before piece := by
  obtain ⟨ctes, table, columns, rows, conflict, returning⟩ := statement
  obtain ⟨_, _, _, hfits, hscope, rfl⟩ := yields_append_iff.mp hyields
  obtain ⟨rfl, rfl⟩ := yields_require hfits
  obtain ⟨_, hframe, -⟩ := yields_scope_iff.mp hscope
  obtain ⟨_, _, _, opening, _, _, named, hopening, hbody, hfront, hnamed, rfl⟩ :=
    yields_frame_iff.mp hframe
  rw [yields_append_iff] at hfront
  simp only [yields_append_iff] at hbody
  obtain ⟨_, _, listed, ⟨_, _, _, ⟨added, _, resolved, hadded, hresolved, rfl⟩, hreturning, rfl⟩,
    hlisted, rfl⟩ := hbody
  obtain ⟨_, _, target, hkeyword, htarget, rfl⟩ := hfront
  obtain ⟨rfl, rfl⟩ := yields_text hkeyword
  have hreturned := yields_append_iff.mpr ⟨_, _, listed, hreturning, hlisted, rfl⟩
  refine ⟨[opening, added, resolved, _, target, named],
    .cons hopening <| .cons hadded <| .cons hresolved <| .cons hreturned <| .cons htarget <|
      .cons hnamed <| .nil _, fun written ↦ ?_⟩
  simp only [Slot.fill, slots, List.foldl, Slot.piece, List.getD_cons_zero, List.getD_cons_succ,
    Piece.append_assoc, Piece.append_empty_append]

/-- A DELETE is assembled from the pieces of its clauses. -/
theorem assembles_delete {statement : Delete}
    (hyields : (statement.layout d).Yields d before piece after) :
    (Statement.delete statement).Assembles d before piece := by
  obtain ⟨ctes, table, sources, filter, returning⟩ := statement
  obtain ⟨_, hframe, -⟩ := yields_scope_iff.mp hyields
  obtain ⟨_, _, _, opening, _, _, _, hopening, hbody, hfront, hlink, rfl⟩ :=
    yields_frame_iff.mp hframe
  simp only [yields_append_iff] at hbody hfront
  obtain ⟨_, _, listed, ⟨_, _, _, ⟨origins, _, admitted, horigins, hadmitted, rfl⟩, hreturning,
    rfl⟩, hlisted, rfl⟩ := hbody
  obtain ⟨_, _, target, hkeyword, htarget, rfl⟩ := hfront
  obtain ⟨rfl, rfl⟩ := yields_text hkeyword
  obtain ⟨rfl, rfl⟩ := yields_nothing hlink
  have hreturned := yields_append_iff.mpr ⟨_, _, listed, hreturning, hlisted, rfl⟩
  refine ⟨[opening, origins, admitted, _, target],
    .cons hopening <| .cons horigins <| .cons hadmitted <| .cons hreturned <|
      .cons htarget <| .nil _, fun written ↦ ?_⟩
  simp only [Slot.fill, slots, List.foldl, Slot.piece, List.getD_cons_zero, List.getD_cons_succ,
    Piece.append_assoc, Piece.append_empty_append]

/-- A statement puts together what its clauses contribute. -/
theorem assembles_of_yields {statement : Statement}
    (hyields : (statement.layout d).Yields d before piece after) :
    statement.Assembles d before piece := by
  cases statement with
  | select statement => exact assembles_select hyields
  | update statement => exact assembles_update hyields
  | insert statement => exact assembles_insert hyields
  | delete statement => exact assembles_delete hyields

/-- The text behind what was written before is made of one piece for each clause: each clause writes
its piece in the context that the clauses before it leave, and each piece has one place in the
text. -/
structure MadeOf (d : Dialect) (statement : Statement) (context : Context) (pieces : List Piece)
    (written done : Piece) : Prop where
  contribute : Clause.Contribute d context.inner statement.clauses pieces
  placed : ((statement.slots d).filterMap Slot.place?).Perm (List.range pieces.length)
  filled : done = Slot.fill pieces (statement.slots d) written

/-- What is rendered is made of what the clauses contribute. -/
theorem exists_madeOf_of_run {statement : Statement} {context : Context} {written : Piece}
    {done : RenderState} (hrun : (statement.layout d).run d ⟨context, written⟩ = .ok () done) :
    ∃ pieces, statement.MadeOf d context pieces written done.output := by
  obtain ⟨_, hyields, houtput⟩ := exists_yields_of_run hrun
  obtain ⟨pieces, hpieces, hfill⟩ := assembles_of_yields hyields
  refine ⟨pieces, hpieces, ?_, houtput.trans (hfill written)⟩
  rw [hpieces.length_eq]
  exact statement.places_perm

/-- Editing a later clause never rewrites an earlier one. Two statements that are rendered from one
context, and that agree on their clauses up to a cut in the order in which clauses are gone through,
are made of the same pieces up to the cut, whatever their later clauses are. A piece holds its
values in their places, so that only the numbers of its placeholders are left open. -/
theorem clauses_kept {first second : Statement} {context : Context} {earlier later : Piece}
    {firstDone secondDone : RenderState}
    (hfirst : ((Node.statement first).renderer d).run ⟨context, earlier⟩ = .ok () firstDone)
    (hsecond : ((Node.statement second).renderer d).run ⟨context, later⟩ = .ok () secondDone)
    {cut : Nat} (hagree : first.clauses.take cut = second.clauses.take cut) :
    ∃ firstPieces secondPieces : List Piece,
      first.MadeOf d context firstPieces earlier firstDone.output ∧
      second.MadeOf d context secondPieces later secondDone.output ∧
      firstPieces.take cut = secondPieces.take cut := by
  obtain ⟨firstPieces, hfirstMade⟩ := exists_madeOf_of_run hfirst
  obtain ⟨secondPieces, hsecondMade⟩ := exists_madeOf_of_run hsecond
  exact ⟨firstPieces, secondPieces, hfirstMade, hsecondMade,
    hfirstMade.contribute.take_eq hsecondMade.contribute hagree⟩

end Statement

/-! ### Two UPDATEs with the same assignments -/

/-- An UPDATE of the prices in `table` by the rates of one year. -/
def adjusting (table : String) (returned : List ResultItem) : Statement :=
  .update
    ⟨[], ⟨⟨0⟩, table, none⟩, [⟨⟨0⟩, "price"⟩],
      .each [.binary .mul (.column ⟨⟨1⟩, "rate"⟩) (.literal (.int 100))],
      [.table ⟨⟨1⟩, "rates", none⟩],
      some (.binary .eq (.column ⟨⟨1⟩, "year"⟩) (.literal (.int 2020))), returned⟩

/-- The number of orders, which is met before the target of the UPDATE that returns it. -/
def orderCount : ResultItem :=
  .plain (.subquery (.select
    ((Select.blank.selecting [.plain .countStar]).fromSource (.table ⟨⟨2⟩, "orders", none⟩))))

/-- The query of an UPDATE of prices, up to its target and what it returns. -/
def adjusted (target returning : String) : Query where
  sql :=
    "UPDATE " ++ target ++ " SET \"price\" = (\"a\".\"rate\" * $1) " ++
    "FROM \"rates\" AS \"a\" WHERE (\"a\".\"year\" = $2)" ++ returning
  params := [.int 100, .int 2020]

/-- The UPDATEs have different targets under different aliases, and only one of them returns
anything. Their sources, assignments and conditions are met before that, and are written alike. -/
theorem clauses_kept_adjusting :
    ∃ firstDone secondDone : RenderState,
      ((Node.statement (adjusting "goods" [])).renderer .postgres).run {} = .ok () firstDone ∧
      ((Node.statement (adjusting "wares" [orderCount])).renderer .postgres).run {} =
        .ok () secondDone ∧
      adjusted "\"goods\" AS \"b\"" "" = firstDone.output.toQuery .numeric ∧
      adjusted "\"wares\" AS \"c\"" " RETURNING (SELECT COUNT(*) FROM \"orders\" AS \"b\")" =
        secondDone.output.toQuery .numeric ∧
      (adjusting "goods" []).clauses.take 4 = (adjusting "wares" [orderCount]).clauses.take 4 ∧
      ∃ firstPieces secondPieces : List Piece,
        (adjusting "goods" []).MadeOf .postgres {} firstPieces ∅ firstDone.output ∧
        (adjusting "wares" [orderCount]).MadeOf .postgres {} secondPieces ∅ secondDone.output ∧
        firstPieces.take 4 = secondPieces.take 4 := by
  have hgoods : (Node.statement (adjusting "goods" [])).render .postgres =
      .ok (adjusted "\"goods\" AS \"b\"" "") := by
    decide +kernel
  have hwares : (Node.statement (adjusting "wares" [orderCount])).render .postgres =
      .ok (adjusted "\"wares\" AS \"c\""
        " RETURNING (SELECT COUNT(*) FROM \"orders\" AS \"b\")") := by
    decide +kernel
  obtain ⟨firstDone, hfirst, hfirstQuery⟩ := Node.run_of_render hgoods
  obtain ⟨secondDone, hsecond, hsecondQuery⟩ := Node.run_of_render hwares
  have hfirstRun : ((Node.statement (adjusting "goods" [])).renderer .postgres).run {} =
      .ok () firstDone := hfirst
  have hsecondRun : ((Node.statement (adjusting "wares" [orderCount])).renderer .postgres).run {} =
      .ok () secondDone := hsecond
  exact ⟨firstDone, secondDone, hfirst, hsecond, hfirstQuery, hsecondQuery, rfl,
    Statement.clauses_kept hfirstRun hsecondRun rfl⟩

end BoundSql
