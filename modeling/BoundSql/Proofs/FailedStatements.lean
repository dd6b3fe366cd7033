import BoundSql.Proofs.ExactAcceptance

/-!
# What a failed statement leaves behind

A statement holds back what it writes until all of its clauses are complete, and so a statement that
fails leaves the text before it as it was. The named columns of an INSERT are the one exception:
their names are looked at when the WITH list, `INSERT INTO` and the target are written already. A
failed statement writes nothing unless it is an INSERT in which the names of these columns are the
only fault, and such an INSERT always leaves a part of its text behind
(`Statement.output_of_run_eq_error`).
-/

set_option autoImplicit false
set_option relaxedAutoImplicit false

namespace BoundSql

open Layout

variable {d : Dialect}

/-! ### Failed actions -/

namespace Renderer

variable {α β : Type} {before after : RenderState} {error : Refusal}

/-- Two actions in a row fail in the first one or in the second. -/
theorem bind_eq_error {action : Renderer α} {next : α → Renderer β}
    (h : (action >>= next) before = .error error after) :
    action before = .error error after ∨
      ∃ value middle,
        action before = .ok value middle ∧ next value middle = .error error after := by
  simp only [bind, EStateM.bind] at h
  split at h
  · rename_i value middle haction
    exact .inr ⟨value, middle, haction, h⟩
  · rename_i refused middle haction
    obtain ⟨rfl, rfl⟩ := EStateM.Result.error.inj h
    exact .inl haction

/-- Where the first action fails the next one is not reached. -/
theorem bind_of_eq_error {action : Renderer α} {next : α → Renderer β}
    (haction : action before = .error error after) :
    (action >>= next) before = .error error after := by
  simp only [bind, EStateM.bind, haction]

/-- What a failed action has written is dropped. -/
theorem held_eq_error {action : Renderer Unit} (h : held action before = .error error after) :
    ∃ failed, action { before with output := ∅ } = .error error failed ∧
      after.output = before.output := by
  unfold held at h
  split at h
  · cases h
  · rename_i refused failed haction
    obtain ⟨rfl, rfl⟩ := EStateM.Result.error.inj h
    exact ⟨failed, haction, rfl⟩

/-- What fails one level deeper fails there, and the level is taken off nevertheless. -/
theorem deeper_eq_error {action : Renderer α} (h : deeper action before = .error error after) :
    ∃ middle, action { before with
        context := { before.context with depth := before.context.depth + 1 } } =
          .error error middle ∧
      after.output = middle.output := by
  unfold deeper at h
  split at h
  · cases h
  · rename_i refused middle haction
    obtain ⟨rfl, rfl⟩ := EStateM.Result.error.inj h
    exact ⟨middle, haction, rfl⟩

theorem deeper_of_eq_error {action : Renderer α}
    (haction : action { before with
      context := { before.context with depth := before.context.depth + 1 } } =
        .error error after) :
    deeper action before =
      .error error { after with
        context := { after.context with depth := after.context.depth - 1 } } := by
  unfold deeper
  rw [haction]

end Renderer

/-! ### Failed frames -/

namespace Layout

/-- Where a frame fails. Its link is the only part that fails when something is written. -/
inductive FrameFails (d : Dialect) (prologue body front link : Layout)
    (before after : RenderState) (error : Refusal) : Prop
  /-- In the prologue. -/
  | inPrologue {failed : RenderState} (hkept : after.output = before.output)
    (hprologue : run d prologue { context := before.context } = .error error failed)
  /-- In the body. -/
  | inBody {first failed : RenderState} (hkept : after.output = before.output)
    (hprologue : run d prologue { context := before.context } = .ok () first)
    (hbody : run d body { context := first.context } = .error error failed)
  /-- In the front. -/
  | inFront {first second failed : RenderState} (hkept : after.output = before.output)
    (hprologue : run d prologue { context := before.context } = .ok () first)
    (hbody : run d body { context := first.context } = .ok () second)
    (hfront : run d front { context := second.context } = .error error failed)
  /-- In the link. -/
  | inLink {first second third : RenderState}
    (hprologue : run d prologue { context := before.context } = .ok () first)
    (hbody : run d body { context := first.context } = .ok () second)
    (hfront : run d front { context := second.context } = .ok () third)
    (hlink : run d link { third with output := before.output ++ first.output ++ third.output } =
      .error error after)

/-- A frame fails in one of its four parts, behind those that succeed. -/
theorem frameFails_of_run {prologue body front link : Layout} {before after : RenderState}
    {error : Refusal} (hrun : run d (frame prologue body front link) before = .error error after) :
    FrameFails d prologue body front link before after error := by
  rcases Renderer.bind_eq_error hrun with hheld | ⟨_, _, hopening, hrun⟩
  · obtain ⟨failed, hfailed, hkept⟩ := Renderer.held_eq_error hheld
    exact .inPrologue hkept hfailed
  obtain ⟨first, hfirst, rfl, rfl⟩ := Renderer.held_eq_ok hopening
  rcases Renderer.bind_eq_error hrun with hheld | ⟨_, _, hclosing, hrun⟩
  · obtain ⟨failed, hfailed, hkept⟩ := Renderer.held_eq_error hheld
    exact .inBody hkept hfirst hfailed
  obtain ⟨second, hsecond, rfl, rfl⟩ := Renderer.held_eq_ok hclosing
  rcases Renderer.bind_eq_error hrun with hheld | ⟨_, _, hheading, hrun⟩
  · obtain ⟨failed, hfailed, hkept⟩ := Renderer.held_eq_error hheld
    exact .inFront hkept hfirst hsecond hfailed
  obtain ⟨third, hthird, rfl, rfl⟩ := Renderer.held_eq_ok hheading
  rcases Renderer.bind_eq_error hrun with hemit | ⟨_, _, hemit, hrun⟩
  · cases hemit
  cases hemit
  rcases Renderer.bind_eq_error hrun with hemit | ⟨_, _, hemit, hrun⟩
  · cases hemit
  cases hemit
  rcases Renderer.bind_eq_error hrun with hlink | ⟨_, _, _, hemit⟩
  · exact .inLink hfirst hsecond hthird hlink
  · cases hemit

/-- A statement that fails has written nothing, or it fails behind its front. -/
theorem run_scope_frame_eq_error {prologue body front link : Layout} {before after : RenderState}
    {error : Refusal}
    (hrun : run d (scope (frame prologue body front link)) before = .error error after) :
    after.output = before.output ∨
      prologue.Accepted d ∧ body.Accepted d ∧ front.Accepted d ∧
        ∃ middle failed, run d link middle = .error error failed := by
  obtain ⟨failed, hframe, houtput⟩ := Renderer.deeper_eq_error hrun
  cases frameFails_of_run hframe with
  | inPrologue hkept => exact .inl (houtput.trans hkept)
  | inBody hkept => exact .inl (houtput.trans hkept)
  | inFront hkept => exact .inl (houtput.trans hkept)
  | inLink hfirst hsecond hthird hlink =>
    exact .inr ⟨(completes_of_run hfirst).accepted, (completes_of_run hsecond).accepted,
      (completes_of_run hthird).accepted, _, failed, hlink⟩

/-- A statement that writes all of its text at the end writes nothing when it fails. -/
theorem output_eq_of_run_scope_frame_eq_error {prologue body front : Layout}
    {before after : RenderState} {error : Refusal}
    (hrun : run d (scope (frame prologue body front nothing)) before = .error error after) :
    after.output = before.output := by
  rcases run_scope_frame_eq_error hrun with hkept | ⟨-, -, -, middle, failed, hlink⟩
  · exact hkept
  · cases hlink

/-- A requirement that is not met fails before anything is written. -/
theorem run_require_append_eq_error {requirement : Option Refusal} {rest : Layout}
    {before after : RenderState} {error : Refusal}
    (hrun : run d (require requirement ++ rest) before = .error error after) :
    after.output = before.output ∨
      requirement = none ∧ run d rest before = .error error after := by
  cases requirement with
  | some refusal =>
    cases hrun
    exact .inl rfl
  | none => exact .inr ⟨rfl, hrun⟩

/-- A requirement that is not met leaves the state as it is. -/
theorem exists_run_require_append_eq_error {requirement : Option Refusal}
    (hunmet : requirement ≠ none) (rest : Layout) (before : RenderState) :
    ∃ error, run d (require requirement ++ rest) before = .error error before := by
  obtain ⟨error, rfl⟩ := Option.ne_none_iff_exists'.mp hunmet
  exact ⟨error, rfl⟩

end Layout

/-! ### The named columns of an INSERT -/

/-- A list meets nothing where none of its members does. -/
theorem Reading.separated_meetings {separator : String} {items : List (List Identity)}
    (hitems : ∀ item ∈ items, item = []) :
    (Reading.meetings d).separated separator items = [] := by
  induction items with
  | nil => rfl
  | cons first rest ih =>
    obtain ⟨rfl, hlater⟩ := List.forall_mem_cons.mp hitems
    cases rest with
    | nil => rfl
    | cons second rest => exact ih hlater

/-- No relation is met where columns stand without their relations. -/
theorem Column.read_meetings_listLayout (lead : String) (columns : List Column) (close : String)
    (inside : Bool) : (Column.listLayout d lead columns close).read (.meetings d) inside = [] := by
  have hbare : ∀ item ∈ columns.map (Column.readBare (Reading.meetings d)), item = [] := by
    intro item hitem
    obtain ⟨column, -, rfl⟩ := List.mem_map.mp hitem
    unfold Column.readBare
    split <;> rfl
  rw [Column.read_listLayout, Reading.commaSeparated, Reading.separated_meetings hbare]
  rfl

namespace Insert

/-- The layout of the WITH list in front of an INSERT. -/
def openingLayout (d : Dialect) (insert : Insert) : Layout :=
  Cte.listLayout (insert.ctes.any Cte.recursive) (Cte.layouts d insert.ctes)

/-- The layout of all that stands behind the named columns of an INSERT. -/
def clausesLayout (d : Dialect) (insert : Insert) : Layout :=
  insert.rows.layout d ++ ConflictClause.layout? d insert.conflict ++
    require (ResultItem.returningError? d insert.returning) ++
    listClause " RETURNING " (ResultItem.layouts d insert.returning)

/-- The layout of the target of an INSERT. -/
def targetLayout (d : Dialect) (insert : Insert) : Layout :=
  text "INSERT INTO " ++
    (if d.aliasesInsert then insert.table.layout d else insert.table.qualifiedName)

/-- The layout of the named columns of an INSERT. -/
def columnsLayout (d : Dialect) (columns : List Column) : Layout :=
  if columns.isEmpty then nothing else text " (" ++ Column.listLayout d "" columns ")"

/-- An INSERT is a check of the whole, and a frame around its clauses and its target. -/
theorem layout_eq (insert : Insert) :
    insert.layout d =
      require (insert.error? d) ++
        scope (frame (insert.openingLayout d) (insert.clausesLayout d) (insert.targetLayout d)
          (columnsLayout d insert.columns)) := by
  cases insert
  rfl

/-- The column list of an INSERT is accepted exactly if every column can be written. -/
theorem accepted_columnsLayout {columns : List Column} :
    (columnsLayout d columns).Accepted d ↔ ∀ column ∈ columns, column.Writable d := by
  unfold columnsLayout
  cases columns <;> simp

/-- Columns that can be written are written under every dialect. -/
theorem exists_run_columnsLayout_eq_ok {columns : List Column}
    (hcolumns : ∀ column ∈ columns, column.Writable d) (before : RenderState) :
    ∃ after, run d (columnsLayout d columns) before = .ok () after := by
  refine exists_run_eq_ok (accepted_columnsLayout.mpr hcolumns) (.inr ?_) before
  unfold columnsLayout
  split
  · rfl
  · exact Column.read_meetings_listLayout "" columns ")" true

/-- Where a column cannot be written, the opening parenthesis is written before it is refused. -/
theorem run_columnsLayout_eq_error {columns : List Column}
    (hcolumns : ¬ ∀ column ∈ columns, column.Writable d) (before : RenderState) :
    ∃ error, run d (columnsLayout d columns) before =
      .error error { before with output := before.output.pushText " (" } := by
  have hne : columns.isEmpty = false := by
    cases columns with
    | nil => simp at hcolumns
    | cons first rest => rfl
  cases hfault : columns.findSome? (Column.error? d) with
  | none =>
    refine absurd (fun column hcolumn ↦ ?_) hcolumns
    exact Column.error?_eq_none_iff.mp (List.findSome?_eq_none_iff.mp hfault column hcolumn)
  | some error =>
    refine ⟨error, ?_⟩
    simp only [columnsLayout, hne, Column.listLayout, hfault]
    rfl

/-- The INSERT with wildcards for its named columns, which no dialect refuses. -/
def withWildcards (insert : Insert) : Insert :=
  { insert with columns := insert.columns.map fun column ↦ { column with name := "*" } }

/-- The names of its columns are the only fault of the INSERT. -/
def OnlyColumnsFaulty (d : Dialect) (insert : Insert) : Prop :=
  insert.withWildcards.WellFormed d ∧ ¬ insert.WellFormed d

/-- Apart from the names of its columns, an INSERT is well formed if it passes its checks and all
that is held back is accepted. -/
theorem wellFormed_withWildcards_iff {insert : Insert} :
    insert.withWildcards.WellFormed d ↔
      insert.error? d = none ∧ (insert.openingLayout d).Accepted d ∧
        (insert.clausesLayout d).Accepted d ∧ (insert.targetLayout d).Accepted d := by
  have howns : insert.table.Owns (insert.columns.map fun column ↦ { column with name := "*" }) ↔
      insert.table.Owns insert.columns := by
    simp [Table.Owns]
  have hwritable : ∀ column ∈ insert.columns.map fun column ↦ { column with name := "*" },
      column.Writable d := by
    intro column hcolumn
    obtain ⟨original, -, rfl⟩ := List.mem_map.mp hcolumn
    exact .inl rfl
  have htarget : (if d.aliasesInsert = true then insert.table.layout d
      else insert.table.qualifiedName).Accepted d ↔ insert.table.Writable d := by
    split <;> simp
  simp only [withWildcards, WellFormed, howns, List.length_map, openingLayout, clausesLayout,
    targetLayout, accepted_append, accepted_text, accepted_require, accepted_listClause, htarget,
    Insert.error?_eq_none_iff, ResultItem.returningError?_eq_none_iff, Cte.accepted_listLayout,
    Cte.accepted_layouts_iff insert.ctes, NewRows.accepted_layout_iff insert.rows,
    ConflictClause.accepted_layout?_iff insert.conflict,
    ResultItem.accepted_layouts_iff insert.returning]
  tauto

/-- An INSERT is well formed exactly if it is so with wildcards for its columns and the columns can
be written. -/
theorem wellFormed_iff_withWildcards {insert : Insert} :
    insert.WellFormed d ↔
      insert.withWildcards.WellFormed d ∧ ∀ column ∈ insert.columns, column.Writable d := by
  rw [← Insert.accepted_layout_iff, layout_eq, wellFormed_withWildcards_iff,
    ← accepted_columnsLayout, accepted_append, accepted_require, accepted_scope, accepted_frame]
  tauto

end Insert

/-! ### Failed statements -/

/-- A piece that some text is pushed onto changes. -/
theorem Piece.pushParts_append_text_ne_self (piece : Piece) (later : List Part)
    {characters : String} (hcharacters : characters ≠ "") :
    piece.pushParts (later ++ [.text characters]) ≠ piece := by
  intro hsame
  have hspelled := spell_parts_pushParts .qmark piece (later ++ [.text characters])
  rw [hsame, ← List.append_assoc, Part.spell_append, Part.spell_append] at hspelled
  have hlength := congrArg String.length hspelled
  simp only [String.length_append, Part.spell] at hlength
  have hzero : characters.length = 0 := by omega
  exact hcharacters (String.length_eq_zero_iff.mp hzero)

namespace Insert

/-- An INSERT that fails has written nothing unless the names of its columns are the only fault. -/
theorem output_eq_of_run_eq_error {insert : Insert} (honly : ¬ insert.OnlyColumnsFaulty d)
    {before after : RenderState} {error : Refusal}
    (hrun : (insert.layout d).run d before = .error error after) :
    after.output = before.output := by
  rw [layout_eq] at hrun
  rcases run_require_append_eq_error hrun with hkept | ⟨hfit, hscope⟩
  · exact hkept
  rcases run_scope_frame_eq_error hscope with
    hkept | ⟨hopening, hclauses, htarget, middle, failed, hlink⟩
  · exact hkept
  -- The statement has come to its named columns, so nothing else can be wrong with it.
  have hrest := wellFormed_withWildcards_iff.mpr ⟨hfit, hopening, hclauses, htarget⟩
  refine absurd ⟨hrest, fun hformed ↦ ?_⟩ honly
  obtain ⟨written, hwritten⟩ :=
    exists_run_columnsLayout_eq_ok (wellFormed_iff_withWildcards.mp hformed).2 middle
  have hboth := hwritten.symm.trans hlink
  cases hboth

/-- An INSERT in which the names of its columns are the only fault leaves a part of its text behind
when it fails. -/
theorem output_ne_of_run_eq_error (hquote : d.quote.isLower = false) {insert : Insert}
    (honly : insert.OnlyColumnsFaulty d) {before after : RenderState} {error : Refusal}
    (hrun : (insert.layout d).run d before = .error error after) :
    after.output ≠ before.output := by
  obtain ⟨hrest, hfaulty⟩ := honly
  have hcolumns : ¬ ∀ column ∈ insert.columns, column.Writable d := fun hcolumns ↦
    hfaulty (wellFormed_iff_withWildcards.mpr ⟨hrest, hcolumns⟩)
  obtain ⟨hfit, hopening, hclauses, htarget⟩ := wellFormed_withWildcards_iff.mp hrest
  -- Up to the named columns, every part completes, and what it has written is known.
  let inner : RenderState :=
    { before with context := { before.context with depth := before.context.depth + 1 } }
  obtain ⟨first, hfirst⟩ := exists_run_eq_ok hopening (.inl hquote) { context := inner.context }
  obtain ⟨second, hsecond⟩ := exists_run_eq_ok hclauses (.inl hquote) { context := first.context }
  obtain ⟨third, hthird⟩ := exists_run_eq_ok htarget (.inl hquote) { context := second.context }
  have hopened := (completes_of_run hfirst).append_output before.output []
  have hheaded := (completes_of_run hthird).append_output (before.output ++ first.output) []
  obtain ⟨refusal, hlink⟩ := run_columnsLayout_eq_error hcolumns
    { third with output := before.output ++ first.output ++ third.output }
  have hframe : run d (frame (insert.openingLayout d) (insert.clausesLayout d)
      (insert.targetLayout d) (columnsLayout d insert.columns)) inner =
        .error refusal { third with
          output := (before.output ++ first.output ++ third.output).pushText " (" } := by
    rw [run_frame_of_eq_ok hfirst hsecond hthird]
    exact Renderer.bind_of_eq_error hlink
  have hafter : after.output = (before.output ++ first.output ++ third.output).pushText " (" := by
    rw [layout_eq, hfit] at hrun
    have hsame := hrun.symm.trans (Renderer.deeper_of_eq_error hframe)
    obtain ⟨-, rfl⟩ := EStateM.Result.error.inj hsame
    rfl
  rw [hafter, hheaded, hopened, ← Piece.pushParts_append]
  change ((before.output.pushParts _).pushParts [.text " ("]) ≠ before.output
  rw [← Piece.pushParts_append]
  exact Piece.pushParts_append_text_ne_self _ _ (by decide)

end Insert

namespace Statement

/-- The statement is an INSERT, and the names of its columns are its only fault. -/
def OnlyColumnsFaulty (d : Dialect) : Statement → Prop
  | .insert statement => statement.OnlyColumnsFaulty d
  | _ => False

/-- A failed statement has written nothing, unless it is an INSERT in which the names of the columns
are the only fault: such an INSERT leaves text behind whenever it fails. The dialect must be able to
quote its own aliases for the latter, since an alias that is refused fails earlier. -/
theorem output_of_run_eq_error {statement : Statement} {before after : RenderState}
    {error : Refusal}
    (hrun : ((Node.statement statement).renderer d).run before = .error error after) :
    (¬ statement.OnlyColumnsFaulty d → after.output = before.output) ∧
      (d.quote.isLower = false → statement.OnlyColumnsFaulty d →
        after.output ≠ before.output) := by
  cases statement with
  | select statement =>
    cases statement
    exact ⟨fun _ ↦ output_eq_of_run_scope_frame_eq_error hrun, fun _ hfaulty ↦ hfaulty.elim⟩
  | update statement =>
    cases statement
    refine ⟨fun _ ↦ ?_, fun _ hfaulty ↦ hfaulty.elim⟩
    rcases run_require_append_eq_error hrun with hkept | ⟨-, hscope⟩
    · exact hkept
    · exact output_eq_of_run_scope_frame_eq_error hscope
  | insert statement =>
    exact ⟨fun honly ↦ Insert.output_eq_of_run_eq_error honly hrun,
      fun hquote hfaulty ↦ Insert.output_ne_of_run_eq_error hquote hfaulty hrun⟩
  | delete statement =>
    cases statement
    exact ⟨fun _ ↦ output_eq_of_run_scope_frame_eq_error hrun, fun _ hfaulty ↦ hfaulty.elim⟩

end Statement

/-- The INSERT of one price into a column of a table. -/
def pricing (table column : String) : Statement :=
  .insert ⟨[], ⟨⟨0⟩, table, none⟩, [⟨⟨0⟩, column⟩], .listed [[.literal (.int 5)]], none, []⟩

/-- What a run that fails has written. -/
def leftBehind : EStateM.Result Refusal RenderState Unit → Option Piece
  | .ok _ _ => none
  | .error _ after => some after.output

/-- A quote in the name of the column is found when the target is written already. -/
theorem pricing_leaves_text :
    ∃ error after, ((Node.statement (pricing "goods" "pri\"ce")).renderer .postgres).run {} =
        .error error after ∧
      after.output = ⟨[.text "INSERT INTO \"goods\" AS \"a\" ("]⟩ ∧ after.output ≠ ∅ := by
  have hleft :
      leftBehind (((Node.statement (pricing "goods" "pri\"ce")).renderer .postgres).run {}) =
        some ⟨[.text "INSERT INTO \"goods\" AS \"a\" ("]⟩ := by
    decide +kernel
  cases hrun : ((Node.statement (pricing "goods" "pri\"ce")).renderer .postgres).run {} with
  | ok done after =>
    rw [hrun] at hleft
    cases hleft
  | error error after =>
    rw [hrun] at hleft
    have houtput : after.output = _ := Option.some.inj hleft
    refine ⟨error, after, rfl, houtput, ?_⟩
    rw [houtput]
    decide

theorem not_wellFormed_pricing (table : String) :
    ¬ (pricing table "pri\"ce").WellFormed .postgres := by
  rintro ⟨-, -, -, hcolumns, -⟩
  rcases hcolumns ⟨⟨0⟩, "pri\"ce"⟩ List.mem_cons_self with hwildcard | hquotable
  · revert hwildcard
    decide
  · exact hquotable.quote_free (by decide)

/-- The INSERT leaves its text behind when the name of its column is the only fault. With a faulty
name in the target too, it fails before it has written anything. -/
theorem output_of_failed_pricing :
    (∃ error after, ((Node.statement (pricing "goods" "pri\"ce")).renderer .postgres).run {} =
        .error error after ∧ after.output ≠ ∅) ∧
      ∃ error after, ((Node.statement (pricing "go\"ods" "pri\"ce")).renderer .postgres).run {} =
        .error error after ∧ after.output = ∅ := by
  have hfails (table : String) : ∃ error after,
      ((Node.statement (pricing table "pri\"ce")).renderer .postgres).run {} =
        .error error after := by
    cases hrun : ((Node.statement (pricing table "pri\"ce")).renderer .postgres).run {} with
    | ok _ after =>
      have haccepted := (completes_of_run hrun).accepted
      exact absurd ((Node.accepted_layout_iff _).mp haccepted) (not_wellFormed_pricing table)
    | error error after => exact ⟨error, after, rfl⟩
  constructor
  · have hrender : (Node.statement (.insert ⟨[], ⟨⟨0⟩, "goods", none⟩, [⟨⟨0⟩, "*"⟩],
        .listed [[.literal (.int 5)]], none, []⟩)).render .postgres =
          .ok ⟨"INSERT INTO \"goods\" AS \"a\" (*) VALUES ($1)", [.int 5]⟩ := by
      decide +kernel
    have hrest := (Node.accepted_layout_iff _).mp (Node.accepted_of_render hrender)
    obtain ⟨error, after, hrun⟩ := hfails "goods"
    exact ⟨error, after, hrun, (Statement.output_of_run_eq_error hrun).2 (by decide)
      ⟨hrest, not_wellFormed_pricing "goods"⟩⟩
  · obtain ⟨error, after, hrun⟩ := hfails "go\"ods"
    refine ⟨error, after, hrun, (Statement.output_of_run_eq_error hrun).1 ?_⟩
    rintro ⟨⟨-, -, hwritable, -⟩, -⟩
    exact hwritable.2.quote_free (by decide)

end BoundSql
