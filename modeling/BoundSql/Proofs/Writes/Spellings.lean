import BoundSql.Proofs.Yields
import BoundSql.Tree.Builder

/-!
# Two spellings of an UPDATE

A query for the first column of an UPDATE can stand in front of the values of the other columns, or
it can be the first of these values itself. The first spelling is checked before anything is met,
the second when the value is written, and each is written by code of its own. What is rendered from
the one is rendered from the other, from every state and with the same text and the same parameters
(`Update.spellings_agree`). The layouts need not be the same for this: `Layout.Alike` relates
layouts that yield the same, and it is kept by all that can stand around them.
-/

set_option autoImplicit false
set_option relaxedAutoImplicit false

namespace BoundSql

open Layout

variable {d : Dialect}

/-! ### Layouts that yield the same -/

namespace Layout

/-- From every context the layouts yield the same piece, or neither yields any. -/
def Alike (d : Dialect) (first second : Layout) : Prop :=
  ∀ before piece after, first.Yields d before piece after ↔ second.Yields d before piece after

/-- What is yielded into an empty piece is not changed by writing it there once more. -/
theorem Yields.empty_append {layout : Layout} {before after : Context} {piece : Piece}
    (hyields : layout.Yields d before piece after) : (∅ : Piece) ++ piece = piece := by
  have hsame := hyields.symm.trans (hyields.run_eq ∅)
  obtain ⟨-, hdone⟩ := EStateM.Result.ok.inj hsame
  exact (RenderState.mk.inj hdone).2.symm

/-- Only accepted layouts yield a piece. -/
theorem Yields.accepted {layout : Layout} {before after : Context} {piece : Piece}
    (hyields : layout.Yields d before piece after) : layout.Accepted d :=
  (completes_of_run hyields).accepted

namespace Alike

variable {first second otherFirst otherSecond : Layout}

theorem refl (layout : Layout) : layout.Alike d layout := fun _ _ _ ↦ Iff.rfl

theorem trans {third : Layout} (hfirst : first.Alike d second) (hsecond : second.Alike d third) :
    first.Alike d third :=
  fun before piece after ↦ (hfirst before piece after).trans (hsecond before piece after)

/-- Sequences are alike if their parts are. -/
theorem append (hfirst : first.Alike d otherFirst) (hsecond : second.Alike d otherSecond) :
    (first ++ second).Alike d (otherFirst ++ otherSecond) := by
  intro before piece after
  simp only [yields_append_iff, hfirst _ _ _, hsecond _ _ _]

/-- Statements are alike if their layouts are. -/
theorem scope (hbody : first.Alike d second) : (Layout.scope first).Alike d (.scope second) := by
  intro before piece after
  simp only [yields_scope_iff, hbody _ _ _]

/-- Frames are alike if their four parts are. -/
theorem frame {prologue body front link otherPrologue otherBody otherFront otherLink : Layout}
    (hprologue : prologue.Alike d otherPrologue) (hbody : body.Alike d otherBody)
    (hfront : front.Alike d otherFront) (hlink : link.Alike d otherLink) :
    (Layout.frame prologue body front link).Alike d
      (.frame otherPrologue otherBody otherFront otherLink) := by
  intro before piece after
  simp only [yields_frame_iff, hprologue _ _ _, hbody _ _ _, hfront _ _ _, hlink _ _ _]

/-- Lists are alike if their first members are and the others are the same. -/
theorem commaSeparated_cons (hfirst : first.Alike d second) (rest : List Layout) :
    (commaSeparated (first :: rest)).Alike d (commaSeparated (second :: rest)) := by
  cases rest with
  | nil => exact hfirst
  | cons next others => exact (hfirst.append (refl _)).append (refl _)

/-- Layouts that are both refused yield the same, namely nothing. -/
theorem of_not_accepted (hfirst : ¬ first.Accepted d) (hsecond : ¬ second.Accepted d) :
    first.Alike d second := fun _ _ _ ↦
  ⟨fun hyields ↦ absurd hyields.accepted hfirst, fun hyields ↦ absurd hyields.accepted hsecond⟩

theorem nothing_append (layout : Layout) : (Layout.nothing ++ layout).Alike d layout := by
  intro before piece after
  rw [yields_append_iff]
  constructor
  · rintro ⟨earlier, middle, later, hnothing, hlayout, rfl⟩
    obtain ⟨rfl, rfl⟩ := yields_nothing hnothing
    rwa [hlayout.empty_append]
  · intro hlayout
    exact ⟨∅, before, piece, rfl, hlayout, hlayout.empty_append.symm⟩

theorem append_nothing (layout : Layout) : (layout ++ Layout.nothing).Alike d layout := by
  intro before piece after
  rw [yields_append_iff]
  constructor
  · rintro ⟨earlier, middle, later, hlayout, hnothing, rfl⟩
    obtain ⟨rfl, rfl⟩ := yields_nothing hnothing
    exact hlayout
  · intro hlayout
    exact ⟨piece, after, ∅, hlayout, rfl, rfl⟩

theorem text_empty : (text "").Alike d .nothing := fun _ _ _ ↦ Iff.rfl

/-- From every state, with anything written before, the layouts do the same if they complete. -/
theorem run_eq_ok_iff (halike : first.Alike d second) (before after : RenderState) :
    first.run d before = .ok () after ↔ second.run d before = .ok () after := by
  have hforth {one other : Layout} (hsame : one.Alike d other)
      (hrun : one.run d before = .ok () after) : other.run d before = .ok () after := by
    obtain ⟨piece, hyields, houtput⟩ := exists_yields_of_run hrun
    have hother := ((hsame _ _ _).mp hyields).run_eq before.output
    rwa [← houtput] at hother
  exact ⟨hforth halike, hforth fun _ _ _ ↦ (halike _ _ _).symm⟩

end Alike

end Layout

/-- A query is rendered if the run from nothing completes, and then it is what has been written. -/
theorem Node.render_eq_ok_iff {node : Node} {query : Query} :
    node.render d = .ok query ↔
      ∃ after, (node.renderer d).run {} = .ok () after ∧
        query = after.output.toQuery d.paramStyle := by
  constructor
  · exact run_of_render
  · rintro ⟨after, hrun, rfl⟩
    rw [render, hrun]

/-! ### One column and its query -/

/-- A single column is written alike as a list and alone. -/
theorem Column.alike_listLayout_singleton (column : Column) :
    (Column.listLayout d "" [column] "").Alike d column.bare := by
  cases herror : column.error? d with
  | none =>
    have hlist : Column.listLayout d "" [column] "" =
        nothing ++ text "" ++ column.bare ++ text "" := by
      simp only [Column.listLayout, List.findSome?_cons, herror]
      rfl
    rw [hlist]
    have hempty : (nothing ++ text "").Alike d nothing :=
      (Alike.nothing_append _).trans Alike.text_empty
    have hfront := (hempty.append (.refl column.bare)).trans (Alike.nothing_append _)
    exact (hfront.append Alike.text_empty).trans (Alike.append_nothing _)
  | some error =>
    have hfaulty : ¬ column.Writable d := fun hwritable ↦ by
      rw [Column.error?_eq_none_iff.mpr hwritable] at herror
      cases herror
    refine .of_not_accepted (fun haccepted ↦ hfaulty ?_) fun haccepted ↦ hfaulty ?_
    · exact Column.accepted_listLayout.mp haccepted column List.mem_cons_self
    · exact Column.accepted_bare.mp haccepted

/-- A query that fits one column is assigned to it as a value is. -/
theorem Assignment.alike_queryLayout {source : Statement} (hfits : source.FitsColumns 1)
    (column : Column) :
    (Assignment.queryLayout d [column] (source.layout d)).Alike d
      (column.bare ++ text " = " ++
        (require (Expr.subquery source).scalarError? ++ (Expr.subquery source).layout d)) := by
  have hmet : (Expr.subquery source).scalarError? = none :=
    Statement.singleColumnError?_eq_none_iff.mpr hfits
  rw [hmet]
  have hvalue : (parenthesized (source.layout d)).Alike d
      (nothing ++ (Expr.subquery source).layout d) :=
    fun _ _ _ ↦ (Alike.nothing_append _ _ _ _).symm
  exact (column.alike_listLayout_singleton.append (.refl _)).append hvalue

/-- A query in front of the other values is written as the first of the values. -/
theorem NewValues.alike_layout {source : Statement} (hfits : source.FitsColumns 1)
    {rest : List Expr} {columns : List Column} (hcount : columns.length = 1 + rest.length) :
    ((queryThenEach source rest).layout d columns).Alike d
      ((each (.subquery source :: rest)).layout d columns) := by
  rw [Nat.add_comm] at hcount
  obtain ⟨column, trailing, rfl⟩ := List.exists_cons_of_length_eq_add_one hcount
  have hleading : (column :: trailing).length - rest.length = 1 := by omega
  have hthen : (queryThenEach source rest).layout d (column :: trailing) =
      commaSeparated (Assignment.queryLayout d [column] (source.layout d) ::
        Assignment.listLayout (trailing.zip (Expr.scalarLayouts d rest))) := by
    simp only [NewValues.layout, hleading]
    rfl
  rw [hthen]
  exact (Assignment.alike_queryLayout hfits column).commaSeparated_cons _

/-! ### The whole UPDATE -/

namespace Update

/-- From every state one UPDATE completes exactly if the other does, in the same state; so one is
rendered exactly if the other is, with the same text and the same parameters. -/
structure RendersAs (d : Dialect) (first second : Update) : Prop where
  /-- From every state, the UPDATEs complete in the same state, or neither completes. -/
  run_iff : ∀ before after,
    ((Node.statement (.update first)).renderer d).run before = .ok () after ↔
      ((Node.statement (.update second)).renderer d).run before = .ok () after
  /-- The UPDATEs are rendered as the same query, or neither is rendered. -/
  render_iff : ∀ query,
    (Node.statement (.update first)).render d = .ok query ↔
      (Node.statement (.update second)).render d = .ok query

variable {update : Update} {source : Statement} {rest : List Expr}

/-- Updates whose layouts are alike render alike. -/
theorem RendersAs.of_alike {first second : Update}
    (halike : (first.layout d).Alike d (second.layout d)) : first.RendersAs d second where
  run_iff := halike.run_eq_ok_iff
  render_iff query := by
    have hrun (after : RenderState) :
        ((Node.statement (.update first)).renderer d).run {} = .ok () after ↔
          ((Node.statement (.update second)).renderer d).run {} = .ok () after :=
      halike.run_eq_ok_iff {} after
    simp only [Node.render_eq_ok_iff, hrun]

/-- UPDATEs that differ in their values only are alike if the values are: as to their number, and as
to what is written of them. -/
theorem alike_layout {first second : NewValues}
    (herror : first.error? update.columns.length = second.error? update.columns.length)
    (hvalues : (first.layout d update.columns).Alike d (second.layout d update.columns)) :
    (Update.layout d { update with values := first }).Alike d
      (Update.layout d { update with values := second }) := by
  obtain ⟨ctes, table, columns, values, sources, filter, returning⟩ := update
  have hchecked : Update.error? ⟨ctes, table, columns, first, sources, filter, returning⟩ =
      Update.error? ⟨ctes, table, columns, second, sources, filter, returning⟩ := by
    unfold error?
    rw [herror]
  simp only [Update.layout, hchecked]
  have hassigned := Alike.frame (.refl nothing)
    (.refl (listClause " FROM " (RowSource.layouts d sources))) hvalues (.refl nothing)
  have hclauses := ((hassigned.append (.refl (clause " WHERE " (Expr.layout? d filter)))).append
    (.refl (require (ResultItem.returningError? d returning)))).append
      (.refl (listClause " RETURNING " (ResultItem.layouts d returning)))
  exact (Alike.refl _).append ((Alike.refl _).frame hclauses (.refl _) (.refl _)).scope

/-- A query in front of the other values, and the same query as the first of the values. -/
theorem alike_leading_query (hcount : update.columns.length = 1 + rest.length) :
    (Update.layout d { update with values := .queryThenEach source rest }).Alike d
      (Update.layout d { update with values := .each (.subquery source :: rest) }) := by
  by_cases hfits : source.FitsColumns 1
  · have hleading : update.columns.length - rest.length = 1 := by omega
    have hfewer : rest.length < update.columns.length := by omega
    refine alike_layout ?_ (NewValues.alike_layout hfits hcount)
    have hlisted :
        (NewValues.each (.subquery source :: rest)).FitColumns update.columns.length := by
      rw [hcount, Nat.add_comm]
      rfl
    have hsplit : (NewValues.queryThenEach source rest).FitColumns update.columns.length := by
      refine ⟨hfewer, ?_⟩
      rwa [hleading]
    rw [NewValues.error?_eq_none_iff.mpr hlisted, NewValues.error?_eq_none_iff.mpr hsplit]
  · -- The query is too wide for its column: one UPDATE is refused before anything is met, the
    -- other when its first value is due.
    refine .of_not_accepted (fun haccepted ↦ hfits ?_) fun haccepted ↦ hfits ?_
    · have hformed := (Update.accepted_layout_iff _).mp haccepted
      have hsource := (show _ ∧ source.FitsColumns _ from hformed.1.2.2).2
      have hleading : update.columns.length - rest.length = 1 := by omega
      rwa [hleading] at hsource
    · have hformed := (Update.accepted_layout_iff _).mp haccepted
      have hvalues : Expr.ScalarsWellFormed d (.subquery source :: rest) := hformed.2.2.2.2.1
      exact hvalues.1.1

/-- A query for the only column is one in front of no other values. -/
theorem layout_fromQuery (hcount : update.columns.length = 1) :
    Update.layout d { update with values := .fromQuery source } =
      Update.layout d { update with values := .queryThenEach source [] } := by
  obtain ⟨ctes, table, columns, values, sources, filter, returning⟩ := update
  obtain ⟨column, rfl⟩ := List.length_eq_one_iff.mp hcount
  rfl

/-- Columns that are assigned to one by one stand beside their values in the order of the calls. -/
theorem foldl_assign (pairs : List (Column × Expr)) {values : List Expr}
    (hvalues : update.values = .each values) :
    pairs.foldl (fun built pair ↦ built.assign pair.1 pair.2) update =
      { update with
        columns := update.columns ++ pairs.map Prod.fst
        values := .each (values ++ pairs.map Prod.snd) } := by
  induction pairs generalizing update values with
  | nil =>
    rw [List.map_nil, List.map_nil, List.append_nil, List.append_nil, ← hvalues]
    cases update
    rfl
  | cons pair pairs ih =>
    have hassigned : update.assign pair.1 pair.2 =
        { update with
          columns := update.columns ++ [pair.1]
          values := .each (values ++ [pair.2]) } := by
      rw [assign, hvalues]
    rw [List.foldl_cons, hassigned, ih rfl]
    simp only [List.map_cons, List.append_assoc, List.singleton_append]

/-- An UPDATE with a value for each column but the first, which takes a query, is rendered alike
whether the query stands in front of the values or is the first of them, and, if there is no other
column, whether it supplies the only value or all columns. And assigning columns one by one builds
the UPDATE that is given all columns and then all values. -/
theorem spellings_agree :
    let listed : Update := { update with values := .each (.subquery source :: rest) }
    (update.columns.length = 1 + rest.length →
      RendersAs d { update with values := .queryThenEach source rest } listed ∧
      (rest = [] → RendersAs d { update with values := .fromQuery source } listed)) ∧
    ∀ (table : Table) (pairs : List (Column × Expr)),
      pairs.foldl (fun built pair ↦ built.assign pair.1 pair.2) (blank table) =
        ((blank table).assigning (pairs.map Prod.fst)).givenValues (pairs.map Prod.snd) := by
  intro listed
  refine ⟨fun hcount ↦ ?_, fun table pairs ↦ ?_⟩
  · have halike : (Update.layout d { update with values := .queryThenEach source rest }).Alike d
        (listed.layout d) := alike_leading_query hcount
    refine ⟨.of_alike halike, fun hrest ↦ .of_alike ?_⟩
    subst hrest
    rw [layout_fromQuery hcount]
    exact halike
  · have hblank : (blank table).values = .each [] := rfl
    rw [foldl_assign pairs hblank, List.nil_append]
    rfl

end Update

/-! ### A correlated query and a value -/

/-- An UPDATE of the named columns of goods. -/
def relisting (columns : List String) (values : NewValues) : Update :=
  let goods : Table := ⟨⟨0⟩, "goods", none⟩
  ⟨[], goods, columns.map goods.column, values, [], none, []⟩

/-- The prices of the goods that are updated, from the named columns of a table of prices. -/
def currentPrice (columns : List String) : Statement :=
  let prices : Table := ⟨⟨1⟩, "prices", none⟩
  .select (((Select.blank.selecting
    (columns.map fun name ↦ .plain (.column (prices.column name)))).fromSource
      (.table prices)).filtered
        (.binary .eq (.column (prices.column "item")) (.column ⟨⟨0⟩, "id"⟩)))

/-- The query of `relisting` with a current price, and with more assignments behind it. -/
def relisted (others : String) (params : List Value) : Query where
  sql :=
    "UPDATE \"goods\" AS \"b\" SET \"price\" = (SELECT \"a\".\"base\" FROM \"prices\" AS \"a\" " ++
    "WHERE (\"a\".\"item\" = \"b\".\"id\"))" ++ others
  params := params

/-- The spellings are rendered alike, with a value behind the query and without one. A query of two
columns is refused in both. -/
theorem spellings_agree_relisting :
    (Node.statement (.update (relisting ["price", "state"]
        (.queryThenEach (currentPrice ["base"]) [.literal (.text "new")])))).render .postgres =
      .ok (relisted ", \"state\" = $1" [.text "new"]) ∧
    (Node.statement (.update (relisting ["price"] (.fromQuery (currentPrice ["base"]))))).render
        .postgres = .ok (relisted "" []) ∧
    ∀ query, (Node.statement (.update (relisting ["price", "state"]
        (.each [.subquery (currentPrice ["base", "tax"]), .literal (.text "new")])))).render
          .postgres ≠ .ok query := by
  have hcount : (relisting ["price", "state"] (.each [])).columns.length =
      1 + [Expr.literal (.text "new")].length := rfl
  have hsingle : (relisting ["price"] (.each [])).columns.length = 1 + ([] : List Expr).length :=
    rfl
  have hlisted : (Node.statement (.update (relisting ["price", "state"]
      (.each [.subquery (currentPrice ["base"]), .literal (.text "new")])))).render .postgres =
        .ok (relisted ", \"state\" = $1" [.text "new"]) := by decide +kernel
  have halone : (Node.statement (.update (relisting ["price"]
      (.each [.subquery (currentPrice ["base"])])))).render .postgres =
        .ok (relisted "" []) := by decide +kernel
  have hwide : (Node.statement (.update (relisting ["price", "state"]
      (.queryThenEach (currentPrice ["base", "tax"]) [.literal (.text "new")])))).render .postgres =
        .error (.subqueryWidth 2) := by decide +kernel
  refine ⟨?_, ?_, fun query hquery ↦ ?_⟩
  · exact ((Update.spellings_agree.1 hcount).1.render_iff _).mpr hlisted
  · exact (((Update.spellings_agree.1 hsingle).2 rfl).render_iff _).mpr halone
  · have hother := ((Update.spellings_agree.1 hcount).1.render_iff query).mpr hquery
    have hboth := hwide.symm.trans hother
    cases hboth

end BoundSql
