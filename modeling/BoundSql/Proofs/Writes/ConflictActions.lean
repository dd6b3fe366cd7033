import BoundSql.Proofs.Writes.CompleteWrites
import Mathlib.Data.List.DropRight

/-!
# What is done on a conflict

Calls turn an ON CONFLICT clause to and fro between skipping a row and updating the row that is
there. What counts in the end are the calls behind the last one that skips: their assignments and
the last of their conditions (`ConflictClause.response_build`). With this the text of the clause
ends, alone and inside of an INSERT of any depth (`ConflictClause.written_response`). A condition
without an assignment is refused by every INSERT; a clause that stands alone is written all the
same, and what is to be done is left out.
-/

set_option autoImplicit false
set_option relaxedAutoImplicit false

namespace BoundSql

/-- The ON CONFLICT clause of a well-formed INSERT is about columns of its table. -/
theorem Insert.WellFormed.targets {d : Dialect} {insert : Insert} (hformed : insert.WellFormed d)
    {conflict : ConflictClause} (hconflict : insert.conflict = some conflict) :
    conflict.Targets insert.table := by
  obtain ⟨ctes, table, columns, rows, resolved, returning⟩ := insert
  exact (hformed.1.2.2 conflict hconflict).2

namespace ConflictClause

/-! ### Calls of the builder -/

/-- A call that changes what is done on a conflict. -/
inductive Call where
  /-- The row that is there is updated, with one more assignment. -/
  | set (assigned : Column) (given : Expr)
  /-- The row that is there is updated only where a condition holds. -/
  | filter (condition : Expr)
  /-- The row is skipped. -/
  | skip

namespace Call

/-- The clause after a call. -/
def apply (conflict : ConflictClause) : Call → ConflictClause
  | set assigned given => conflict.assign assigned given
  | filter condition => conflict.filtered condition
  | skip => conflict.skip

/-- Tells whether a call updates, and thus keeps the assignments and the condition so far. -/
def updates : Call → Bool
  | skip => false
  | _ => true

/-- The assignment of a call. -/
def assignment? : Call → Option Assignment
  | set assigned given => some ⟨assigned, given⟩
  | _ => none

/-- The condition of a call. -/
def condition? : Call → Option Expr
  | filter condition => some condition
  | _ => none

end Call

/-- The clause for conflicts on the given columns, or on any constraint if there are none, after
calls in their order. -/
def build (target : List Column) (calls : List Call) : ConflictClause :=
  calls.foldl Call.apply (columns target)

/-- The calls behind the last one that skips. -/
def recent (calls : List Call) : List Call := calls.rtakeWhile Call.updates

/-- The assignments since the last call that skips, one for each call that assigns. -/
def assigned (calls : List Call) : List Assignment := (recent calls).filterMap Call.assignment?

/-- The last condition since the last call that skips. -/
def condition? (calls : List Call) : Option Expr :=
  ((recent calls).filterMap Call.condition?).getLast?

/-- A condition that has no assignment beside it. -/
def loneCondition? (calls : List Call) : Option Expr :=
  if (assigned calls).isEmpty then condition? calls else none

/-! ### The last call -/

variable {target : List Column} {earlier : List Call}

theorem recent_concat {last : Call} (hupdates : last.updates = true) :
    recent (earlier ++ [last]) = recent earlier ++ [last] :=
  List.rtakeWhile_concat_pos _ _ _ hupdates

theorem recent_concat_skip : recent (earlier ++ [.skip]) = [] :=
  List.rtakeWhile_concat_neg _ _ _ Bool.false_ne_true

theorem assigned_concat_set (column : Column) (given : Expr) :
    assigned (earlier ++ [.set column given]) = assigned earlier ++ [⟨column, given⟩] := by
  rw [assigned, recent_concat rfl, List.filterMap_append]
  rfl

theorem condition?_concat_set (column : Column) (given : Expr) :
    condition? (earlier ++ [.set column given]) = condition? earlier := by
  have hnone : [Call.set column given].filterMap Call.condition? = [] := rfl
  rw [condition?, recent_concat rfl, List.filterMap_append, hnone, List.append_nil, condition?]

theorem assigned_concat_filter (condition : Expr) :
    assigned (earlier ++ [.filter condition]) = assigned earlier := by
  have hnone : [Call.filter condition].filterMap Call.assignment? = [] := rfl
  rw [assigned, recent_concat rfl, List.filterMap_append, hnone, List.append_nil, assigned]

theorem condition?_concat_filter (condition : Expr) :
    condition? (earlier ++ [.filter condition]) = some condition := by
  rw [condition?, recent_concat rfl, List.filterMap_append]
  exact List.getLast?_concat

theorem build_concat (last : Call) :
    build target (earlier ++ [last]) = last.apply (build target earlier) := List.foldl_append

/-! ### The clause after all calls -/

theorem target_build (target : List Column) (calls : List Call) :
    (build target calls).target = target := by
  induction calls using List.reverseRecOn with
  | nil => rfl
  | append_singleton earlier last ih =>
    rw [build_concat]
    cases last <;> exact ih

/-- What is done on a conflict after calls: nothing if there is neither an assignment nor a
condition, and otherwise an update with both. -/
theorem response_build (target : List Column) (calls : List Call) :
    (build target calls).response =
      if assigned calls = [] ∧ condition? calls = none then .doNothing
      else .doUpdate (assigned calls) (condition? calls) := by
  induction calls using List.reverseRecOn with
  | nil => rfl
  | append_singleton earlier last ih =>
    rw [build_concat]
    cases last with
    | skip =>
      rw [if_pos]
      · rfl
      · rw [assigned, condition?, recent_concat_skip]
        exact ⟨rfl, rfl⟩
    | set column given =>
      rw [assigned_concat_set, condition?_concat_set, if_neg (by simp), Call.apply, assign, ih]
      by_cases hskips : assigned earlier = [] ∧ condition? earlier = none
      · rw [if_pos hskips, hskips.1, hskips.2]
        rfl
      · rw [if_neg hskips]
    | filter condition =>
      rw [assigned_concat_filter, condition?_concat_filter, if_neg (by simp), Call.apply, filtered,
        ih]
      by_cases hskips : assigned earlier = [] ∧ condition? earlier = none
      · rw [if_pos hskips, hskips.1]
      · rw [if_neg hskips]

/-! ### The text of the clause -/

variable {d : Dialect} {aliasOf : Identity → String}

/-- The text of a clause up to what is done. -/
def spelledTarget (d : Dialect) (target : List Column) : String :=
  " ON CONFLICT" ++
    if target.isEmpty then "" else " (" ++ ", ".intercalate (Column.spelledNames d target) ++ ")"

/-- The assignments of a clause, inside a statement or alone, as what they are written as. -/
def assignedTokens (d : Dialect) (inside : Bool) (calls : List Call) : List (List Token) :=
  (assigned calls).map (Assignment.read (.tokens d) inside)

/-- The text of what is done after calls, behind `position` values: the row is skipped if there is
no assignment, and otherwise it is updated, where the condition holds if there is one. -/
def spelledAction (d : Dialect) (aliasOf : Identity → String) (position : Nat) (inside : Bool)
    (calls : List Call) : String :=
  if (assigned calls).isEmpty then " DO NOTHING"
  else
    let items := assignedTokens d inside calls
    let after := position + Token.valueCount items.flatten
    " DO UPDATE SET " ++ ", ".intercalate (Token.spelledEach d aliasOf position items) ++
      (condition? calls).elim "" fun condition ↦
        " WHERE " ++ Token.spelled d aliasOf after (condition.read (.tokens d) inside)

/-- What is done is written as it should be, unless a condition has no assignment beside it: then
only the condition is written. -/
theorem spelled_response (inside : Bool) (position : Nat) (target : List Column)
    (calls : List Call) :
    Token.spelled d aliasOf position ((build target calls).response.read (.tokens d) inside) =
      (loneCondition? calls).elim (spelledAction d aliasOf position inside calls) fun condition ↦
        " WHERE " ++ Token.spelled d aliasOf position (condition.read (.tokens d) inside) := by
  have hwhere (condition : Expr) (behind : Nat) :
      Token.spelled d aliasOf behind
          ((Reading.tokens d).clause " WHERE " (Expr.read? (.tokens d) inside (some condition))) =
        " WHERE " ++ Token.spelled d aliasOf behind (condition.read (.tokens d) inside) := by
    rw [Expr.read?, Reading.clause, Token.spelled_append, Token.spelled_readText,
      Token.valueCount_readText, Nat.add_zero]
  rw [response_build, loneCondition?, spelledAction, assignedTokens]
  cases hassigned : assigned calls with
  | nil =>
    cases hcondition : condition? calls with
    | none => exact Token.spelled_readText " DO NOTHING" position
    | some condition => exact hwhere condition position
  | cons first rest =>
    have hlisted : (Reading.tokens d).listClause " DO UPDATE SET "
        (Assignment.readEach (.tokens d) inside (first :: rest)) =
          (Reading.tokens d).text " DO UPDATE SET " ++
            (Reading.tokens d).commaSeparated
              ((first :: rest).map (Assignment.read (.tokens d) inside)) := by
      rw [Assignment.readEach_eq_map]
      rfl
    rw [if_neg (by simp), ConflictResponse.read, hlisted]
    simp only [Token.spelled_append, Token.valueCount_append, Token.spelled_readText,
      Token.valueCount_readText, Token.spelled_commaSeparated, Token.valueCount_commaSeparated,
      Nat.add_zero, Nat.zero_add]
    cases condition? calls with
    | none => rfl
    | some condition =>
      rw [hwhere]
      rfl

/-- The text of a clause is that of its target and of what is done. -/
theorem spelled_read (inside : Bool) (position : Nat) (target : List Column)
    (calls : List Call) :
    Token.spelled d aliasOf position ((build target calls).read (.tokens d) inside) =
      spelledTarget d target ++
        (loneCondition? calls).elim (spelledAction d aliasOf position inside calls)
          fun condition ↦
            " WHERE " ++ Token.spelled d aliasOf position (condition.read (.tokens d) inside) := by
  have hread (conflict : ConflictClause) : conflict.read (.tokens d) inside =
      (Reading.tokens d).text " ON CONFLICT" ++ Column.readNames (.tokens d) conflict.target ++
        conflict.response.read (.tokens d) inside := by
    cases conflict
    rfl
  rw [hread, target_build, Token.spelled_append, Token.spelled_append, Token.valueCount_append,
    Token.spelled_readText, Token.valueCount_readText, Column.spelled_readNames,
    Column.valueCount_readNames, spelled_response]
  rfl

/-! ### Alone and inside of an INSERT -/

/-- A clause that an INSERT into some table takes has an assignment beside its condition. -/
theorem loneCondition?_of_targets {target : List Column} {calls : List Call} {table : Table}
    (htargets : (build target calls).Targets table) : loneCondition? calls = none := by
  have hresponse : (build target calls).response.Targets table := htargets.2
  rw [response_build] at hresponse
  rw [loneCondition?]
  cases hassigned : assigned calls with
  | cons first rest => rfl
  | nil =>
    cases hcondition : condition? calls with
    | none => rfl
    | some condition =>
      rw [hassigned, hcondition, if_neg (by simp)] at hresponse
      exact absurd rfl hresponse.1

/-- The text of an INSERT with an ON CONFLICT clause that calls have built, behind `position`
values. -/
def spelledInsert (d : Dialect) (aliasOf : Identity → String) (position : Nat) (insert : Insert)
    (target : List Column) (calls : List Call) : String :=
  let front := insert.readOpening (.tokens d) ++ Column.readNames (.tokens d) insert.columns ++
    insert.rows.read (.tokens d)
  let inside := position + Token.valueCount front
  let after := inside + Token.valueCount ((build target calls).read (.tokens d) true)
  Token.spelled d aliasOf position front ++
    (spelledTarget d target ++ spelledAction d aliasOf inside true calls) ++
    Token.spelled d aliasOf after
      ((Reading.tokens d).listClause " RETURNING "
        (ResultItem.readEach (.tokens d) true insert.returning))

/-- An INSERT with the clause is written with what is to be done on a conflict. -/
theorem spelled_read_insert {target : List Column} {calls : List Call} {insert : Insert}
    (hconflict : insert.conflict = some (build target calls))
    (hpaired : loneCondition? calls = none) (position : Nat) :
    Token.spelled d aliasOf position (insert.read (.tokens d)) =
      spelledInsert d aliasOf position insert target calls := by
  have hclauses : insert.readClauses (.tokens d) =
      (build target calls).read (.tokens d) true ++
        (Reading.tokens d).listClause " RETURNING "
          (ResultItem.readEach (.tokens d) true insert.returning) := by
    rw [Insert.readClauses, hconflict]
    rfl
  rw [Insert.read_eq_parts (r := Reading.tokens d) rfl, hclauses, ← List.append_assoc,
    Token.spelled_append, Token.spelled_append, spelled_read, hpaired,
    Token.valueCount_append _ ((build target calls).read (.tokens d) true), ← Nat.add_assoc]
  rfl

/-- An INSERT with a condition that has no assignment beside it is refused before anything is met or
written. -/
theorem run_insert_of_loneCondition? {target : List Column} {calls : List Call} {insert : Insert}
    (hconflict : insert.conflict = some (build target calls))
    (hlone : loneCondition? calls ≠ none) (before : RenderState) :
    ∃ refusal, (insert.layout d).run d before = .error refusal before := by
  have herror : insert.error? d ≠ none := fun hnone ↦ by
    obtain ⟨-, -, hconflicts⟩ := Insert.error?_eq_none_iff.mp hnone
    exact hlone (loneCondition?_of_targets (hconflicts _ hconflict).2)
  obtain ⟨ctes, table, columns, rows, conflict, returning⟩ := insert
  rw [Insert.layout]
  exact Layout.exists_run_require_append_eq_error herror _ before

/-- A clause is written, from any state, with its target and with what is to be done after all
calls, alone and inside of an INSERT of any depth, behind its rows. Only a condition without an
assignment makes a difference: no INSERT takes it, and alone it is all that is written behind the
target. -/
theorem written_response (target : List Column) (calls : List Call) :
    let clause := build target calls
    (∀ before after, ((Node.conflict clause).renderer d).run before = .ok () after →
      let aliasOf := after.context.roster.aliasOf
      let inside := before.context.insideStatement
      (loneCondition? calls = none →
        after.sql d = before.sql d ++
          (spelledTarget d target ++ spelledAction d aliasOf before.bound inside calls)) ∧
      ∀ condition, loneCondition? calls = some condition →
        after.sql d = before.sql d ++
          (spelledTarget d target ++
            (" WHERE " ++
              Token.spelled d aliasOf before.bound (condition.read (.tokens d) inside)))) ∧
    (∀ (node : Node) (before after : RenderState),
      (node.renderer d).run before = .ok () after →
      ∃ added, after.sql d = before.sql d ++ added ∧
        ∀ insert, .insert insert ∈ node.statements → insert.conflict = some clause →
          loneCondition? calls = none ∧
            ∃ earlier position later,
              added = earlier ++
                spelledInsert d after.context.roster.aliasOf position insert target calls ++
                  later) ∧
    (loneCondition? calls ≠ none →
      ∀ insert : Insert, insert.conflict = some clause → ∀ before, ∃ refusal,
        ((Node.statement (.insert insert)).renderer d).run before = .error refusal before) := by
  intro clause
  refine ⟨fun before after hrun ↦ ?_, fun node before after hrun ↦ ?_,
    fun hlone insert hconflict before ↦ run_insert_of_loneCondition? hconflict hlone before⟩
  · intro aliasOf inside
    have hsql : after.sql d = before.sql d ++
        Token.spelled d aliasOf before.bound (clause.read (.tokens d) inside) :=
      Node.sql_of_run hrun
    rw [spelled_read] at hsql
    refine ⟨fun hpaired ↦ ?_, fun condition hlone ↦ ?_⟩
    · rwa [hpaired] at hsql
    · rwa [hlone] at hsql
  · obtain ⟨added, hadded, hstands⟩ := Node.exists_added_of_run hrun
    refine ⟨added, hadded, fun insert hinsert hconflict ↦ ?_⟩
    obtain ⟨hformed, earlier, position, later, hwithin⟩ := hstands _ hinsert
    have hinsertFormed : insert.WellFormed d := hformed
    have hpaired := loneCondition?_of_targets (hinsertFormed.targets hconflict)
    refine ⟨hpaired, earlier, position, later, ?_⟩
    rw [hwithin, ← spelled_read_insert hconflict hpaired]
    rfl

end ConflictClause

/-! ### A price that is raised, and a condition alone -/

/-- A column of goods. -/
def goodsColumn (name : String) : Column := ⟨⟨0⟩, name⟩

/-- Calls that give up a first condition, and raise a price. -/
def raising : List ConflictClause.Call :=
  [.filter (.column (goodsColumn "sold")), .skip,
    .set (goodsColumn "price") (.excluded "price"),
    .filter (.binary .lt (.column (goodsColumn "price")) (.excluded "price")),
    .set (goodsColumn "state") (.literal (.text "raised"))]

/-- An offer of tea, with a clause for a name that is there. -/
def offeringTea (calls : List ConflictClause.Call) : Insert :=
  let goods : Table := ⟨⟨0⟩, "goods", none⟩
  (((Insert.blank goods).naming [goodsColumn "name", goodsColumn "price"]).row
    [.literal (.text "tea"), .literal (.int 5)]).onConflict
      (ConflictClause.build [goodsColumn "name"] calls)

/-- The query of the clause that `raising` builds. -/
def raised : Query where
  sql :=
    " ON CONFLICT (\"name\") DO UPDATE SET \"price\" = EXCLUDED.\"price\", \"state\" = $1 " ++
    "WHERE (\"price\" < EXCLUDED.\"price\")"
  params := [.text "raised"]

/-- The query of an offer that raises the price. -/
def offeredTea : Query where
  sql :=
    "INSERT INTO \"goods\" AS \"a\" (\"name\", \"price\") VALUES ($1, $2) " ++
    "ON CONFLICT (\"name\") DO UPDATE SET \"price\" = EXCLUDED.\"price\", \"state\" = $3 " ++
    "WHERE (\"a\".\"price\" < EXCLUDED.\"price\")"
  params := [.text "tea", .int 5, .text "raised"]

/-- A condition without an assignment. -/
def guarding : List ConflictClause.Call :=
  [.filter (.binary .eq (.column (goodsColumn "price")) (.literal (.int 5)))]

/-- The price is raised where it is lower, by the clause alone and by an offer with it. Guarded by a
condition only, the offer is refused. -/
theorem written_response_raising :
    (Node.conflict (.build [goodsColumn "name"] raising)).render .postgres = .ok raised ∧
      (∃ aliasOf : Identity → String,
        raised.sql =
          ConflictClause.spelledTarget .postgres [goodsColumn "name"] ++
            ConflictClause.spelledAction .postgres aliasOf 0 false raising) ∧
      (Node.statement (.insert (offeringTea raising))).render .postgres = .ok offeredTea ∧
      (∃ (aliasOf : Identity → String) (earlier : String) (position : Nat) (later : String),
        offeredTea.sql =
          earlier ++ ConflictClause.spelledInsert .postgres aliasOf position (offeringTea raising)
            [goodsColumn "name"] raising ++ later) ∧
      ∃ refusal, ((Node.statement (.insert (offeringTea guarding))).renderer .postgres).run {} =
        .error refusal {} := by
  have hraised : (Node.conflict (.build [goodsColumn "name"] raising)).render .postgres =
      .ok raised := by decide +kernel
  have hoffered : (Node.statement (.insert (offeringTea raising))).render .postgres =
      .ok offeredTea := by decide +kernel
  obtain ⟨halone, hinserts, -⟩ :=
    ConflictClause.written_response (d := .postgres) [goodsColumn "name"] raising
  obtain ⟨-, -, hrefused⟩ :=
    ConflictClause.written_response (d := .postgres) [goodsColumn "name"] guarding
  refine ⟨hraised, ?_, hoffered, ?_, hrefused nofun (offeringTea guarding) rfl {}⟩
  · obtain ⟨after, hrun, hquery⟩ := Node.run_of_render hraised
    refine ⟨after.context.roster.aliasOf, ?_⟩
    rw [hquery]
    exact ((halone {} after hrun).1 rfl).trans String.empty_append
  · obtain ⟨after, hrun, hquery⟩ := Node.run_of_render hoffered
    obtain ⟨added, hadded, hwritten⟩ :=
      hinserts (.statement (.insert (offeringTea raising))) {} after hrun
    obtain ⟨-, earlier, position, later, htext⟩ :=
      hwritten (offeringTea raising) List.mem_cons_self rfl
    refine ⟨after.context.roster.aliasOf, earlier, position, later, ?_⟩
    rw [hquery, ← htext]
    exact hadded.trans String.empty_append

/-- The query of the clause that `guarding` builds. -/
def guarded : Query where
  sql := " ON CONFLICT WHERE (\"price\" = $1)"
  params := [.int 5]

/-- A condition alone is written behind the target, and nothing says what is to be done. An offer
with this condition is refused. -/
theorem guarding_lacks_action :
    ConflictClause.build [] guarding = ConflictClause.any.filtered
        (.binary .eq (.column (goodsColumn "price")) (.literal (.int 5))) ∧
      (Node.conflict (.build [] guarding)).render .postgres = .ok guarded ∧
      ¬ " DO ".toList <:+: guarded.sql.toList ∧
      (Node.statement (.insert (offeringTea guarding))).render .postgres =
        .error (.malformed .conflictWithoutAssignments) :=
  ⟨rfl, by decide +kernel, by decide +kernel, by decide +kernel⟩

end BoundSql
