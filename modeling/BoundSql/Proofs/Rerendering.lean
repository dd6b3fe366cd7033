import BoundSql.Proofs.ClauseIndependence

/-!
# Rendering again

A rendering hands out aliases while it goes, in an order that is not that of the text. Once it is
complete, all of its relations are listed, and they keep their aliases whatever is rendered after
it. So the same node, rendered again at the same level, writes the same piece and lists nothing
more (`Node.renders_again`), however many other nodes have been rendered in between, completely or
in part, and at whatever level. The step is `Layout.Yields.again`: what a layout has yielded once,
it yields in every context that extends the one it led to.
-/

set_option autoImplicit false
set_option relaxedAutoImplicit false

namespace BoundSql

variable {d : Dialect}

/-! ### Longer contexts -/

namespace Context.Extends

variable {earlier later : Context}

/-- What extends the context around a statement extends, one level deeper, the context inside. -/
theorem inner_of_outer {before middle : Context} (hmiddle : before.inner.Extends middle)
    (hlater : middle.outer.Extends later) : middle.Extends later.inner := by
  have hdepth : middle.depth = before.depth + 1 := hmiddle.depth_eq
  have hkept : later.depth = middle.depth - 1 := hlater.depth_eq
  refine ⟨?_, hlater.lists⟩
  show later.depth + 1 = middle.depth
  omega

/-- A relation that has been met is not listed again. -/
theorem visit_eq {relation : Identity}
    (hlater : Context.Extends { earlier with roster := earlier.roster.visit relation } later) :
    later.roster.visit relation = later.roster ∧
      later.roster.aliasOf relation = earlier.roster.aliasOf relation := by
  have hlisted := Roster.mem_members_visit earlier.roster relation
  refine ⟨Roster.visit_eq_self (hlater.lists.subset hlisted), ?_⟩
  rw [hlater.aliasOf_eq hlisted]
  exact Roster.aliasOf_visit_self earlier.roster relation

end Context.Extends

/-! ### What is yielded again -/

/-- The quoted alias of a relation that has been met is the same ever after, and asking for it lists
nothing. -/
theorem Renderer.visitQuoted_again {relation : Identity} {quoted : String}
    {before after : RenderState} (h : visitQuoted d relation before = .ok quoted after)
    {later : Context} (hlater : after.context.Extends later) (written : Piece) :
    visitQuoted d relation ⟨later, written⟩ = .ok quoted ⟨later, written⟩ := by
  obtain ⟨given, middle, hvisit, hquote⟩ := bind_eq_ok h
  cases hvisit
  obtain ⟨hname, rfl, rfl⟩ := quote_eq_ok hquote
  obtain ⟨hvisited, halias⟩ := hlater.visit_eq
  have hstep : visit relation ⟨later, written⟩ =
      .ok (later.roster.aliasOf relation) ⟨later, written⟩ := by
    show EStateM.Result.ok _
      (RenderState.mk { later with roster := later.roster.visit relation } written) = _
    rw [hvisited]
  rw [halias] at hstep
  exact (bind_of_eq_ok hstep).trans
    (quote_of_quotable (Dialect.nameFault?_eq_none_iff.mp hname) _)

namespace Layout

/-- What a layout has yielded once, it yields again in every context that extends the one it led to,
and it leaves that context as it is. -/
theorem Yields.again {layout : Layout} {before after later : Context} {piece : Piece}
    (hyields : layout.Yields d before piece after) (hlater : after.Extends later) :
    layout.Yields d later piece later := by
  induction layout generalizing before after later piece with
  | nothing =>
    obtain ⟨rfl, rfl⟩ := yields_nothing hyields
    rfl
  | text characters =>
    obtain ⟨rfl, rfl⟩ := yields_text hyields
    rfl
  | placeholder bound =>
    cases hyields
    rfl
  | identifier name =>
    obtain ⟨quoted, middle, hquote, hwrite⟩ := Renderer.bind_eq_ok hyields
    obtain ⟨hname, rfl, rfl⟩ := Renderer.quote_eq_ok hquote
    cases hwrite
    exact Renderer.bind_of_eq_ok
      (Renderer.quote_of_quotable (Dialect.nameFault?_eq_none_iff.mp hname) _)
  | visit relation =>
    cases hyields
    show EStateM.Result.ok ()
      (RenderState.mk { later with roster := later.roster.visit relation } ∅) = _
    rw [hlater.visit_eq.1]
  | relationAlias lead relation =>
    obtain ⟨quoted, middle, hvisit, hwrite⟩ := Renderer.bind_eq_ok hyields
    cases hwrite
    have hagain := Renderer.visitQuoted_again hvisit hlater ∅
    obtain ⟨-, rfl⟩ := Renderer.visitQuoted_eq_ok hvisit
    exact Renderer.bind_of_eq_ok hagain
  | qualifier relation =>
    have hlevel := (context_extends hyields).trans hlater |>.insideStatement_eq
    unfold Yields at hyields ⊢
    cases hinside : before.insideStatement with
    | false =>
      rw [run_qualifier_of_outside hinside] at hyields
      cases hyields
      exact run_qualifier_of_outside (hlevel.trans hinside) relation
    | true =>
      rw [run_qualifier_of_inside hinside] at hyields
      obtain ⟨quoted, visited, hvisit, hwrite⟩ := Renderer.bind_eq_ok hyields
      cases hwrite
      have hagain := Renderer.visitQuoted_again hvisit hlater ∅
      obtain ⟨-, rfl⟩ := Renderer.visitQuoted_eq_ok hvisit
      rw [run_qualifier_of_inside (hlevel.trans hinside)]
      exact Renderer.bind_of_eq_ok hagain
  | fail error => cases hyields
  | seq first second hfirst hsecond =>
    obtain ⟨earlier, middle, rest, hearlier, hrest, rfl⟩ := yields_append_iff.mp hyields
    exact yields_append_iff.mpr ⟨earlier, later, rest,
      hfirst hearlier (hrest.context_extends.trans hlater), hsecond hrest hlater, rfl⟩
  | scope body hbody =>
    obtain ⟨middle, hmiddle, rfl⟩ := yields_scope_iff.mp hyields
    exact yields_scope_iff.mpr ⟨later.inner,
      hbody hmiddle (hmiddle.context_extends.inner_of_outer hlater), rfl⟩
  | frame prologue body front link hprologue hbody hfront hlink =>
    obtain ⟨first, second, third, opening, closing, heading, linked, hopening, hclosing, hheading,
      hlinked, rfl⟩ := yields_frame_iff.mp hyields
    -- Each part led to a context that the later parts, and so the later context, extend.
    have hthird := hlinked.context_extends.trans hlater
    have hsecond := hheading.context_extends.trans hthird
    have hfirst := hclosing.context_extends.trans hsecond
    exact yields_frame_iff.mpr ⟨later, later, later, opening, closing, heading, linked,
      hprologue hopening hfirst, hbody hclosing hsecond, hfront hheading hthird,
      hlink hlinked hlater, rfl⟩

end Layout

/-! ### Renderings in between -/

/-- A rendering of any node, inside of any number of statements and behind anything written. -/
structure Rendition where
  /-- The node. -/
  node : Node
  /-- How many statements the rendering is inside of. -/
  depth : Nat
  /-- What is written before. -/
  written : Piece

/-- The aliases that are handed out when the rendering is over, completed or failed. -/
def Rendition.roster (d : Dialect) (before : Roster) (rendition : Rendition) : Roster :=
  let start : RenderState := ⟨⟨before, rendition.depth⟩, rendition.written⟩
  (Renderer.final ((rendition.node.renderer d).run start)).context.roster

/-- The aliases that are handed out when renderings are over, one after the other. -/
def Roster.afterAll (d : Dialect) (before : Roster) (renditions : List Rendition) : Roster :=
  renditions.foldl (Rendition.roster d) before

theorem Rendition.lists_roster (before : Roster) (rendition : Rendition) :
    before.members <+: (rendition.roster d before).members := by
  obtain ⟨node, depth, written⟩ := rendition
  have hrun := Layout.appendsOnly_run d (node.layout d)
  have houtcome : (node.renderer d).run ⟨⟨before, depth⟩, written⟩ = _ :=
    hrun.outcome_eq ⟨before, depth⟩ written
  simp only [roster, houtcome, Renderer.context_final_behind]
  exact (hrun.context_extends ⟨before, depth⟩).lists

/-- Renderings list new relations behind the old ones. -/
theorem Roster.lists_afterAll (before : Roster) (renditions : List Rendition) :
    before.members <+: (before.afterAll d renditions).members := by
  induction renditions generalizing before with
  | nil => exact List.prefix_rfl
  | cons first rest ih => exact (first.lists_roster before).trans (ih _)

/-- A node that has been rendered can be rendered again at the same level, whatever nodes have been
rendered since, completely or in part and at any level. It writes the piece that it wrote the first
time, behind whatever is written by then, and hands out no more aliases. -/
theorem Node.renders_again {node : Node} {context : Context} {written : Piece} {done : RenderState}
    (hrun : (node.renderer d).run ⟨context, written⟩ = .ok () done) :
    ∃ piece : Piece,
      (node.renderer d).run { context := context } = .ok () ⟨done.context, piece⟩ ∧
      done.output = written ++ piece ∧
      ∀ between : List Rendition,
        let later : Context := ⟨done.context.roster.afterAll d between, context.depth⟩
        (node.renderer d).run { context := later } = .ok () ⟨later, piece⟩ ∧
        ∀ present : Piece,
          (node.renderer d).run ⟨later, present⟩ = .ok () ⟨later, present ++ piece⟩ := by
  obtain ⟨piece, hyields, houtput⟩ := Layout.exists_yields_of_run hrun
  refine ⟨piece, hyields, houtput, ?_⟩
  intro between later
  have hlater : done.context.Extends later :=
    ⟨hyields.context_extends.depth_eq.symm, done.context.roster.lists_afterAll between⟩
  have hagain : (node.layout d).Yields d later piece later := hyields.again hlater
  exact ⟨hagain, hagain.run_eq⟩

/-- What comes between two renderings of one UPDATE: a sum that fails when its left operand is
written, and another UPDATE, which meets two relations more. -/
def interruptions : List Rendition :=
  [⟨.expr unnamedSummand, 1, ⟨[.text "SET total = "]⟩⟩, ⟨repricing "goods" "price", 0, ∅⟩]

theorem renders_again_adjusting :
    ∃ done : RenderState,
      ((Node.statement (adjusting "goods" [])).renderer .postgres).run {} = .ok () done ∧
      adjusted "\"goods\" AS \"b\"" "" = done.output.toQuery .numeric ∧
      done.context.roster.size = 2 ∧
      let later : Context := ⟨done.context.roster.afterAll .postgres interruptions, 0⟩
      later.roster.size = 4 ∧
      ∃ piece : Piece, done.output = ∅ ++ piece ∧
        ((Node.statement (adjusting "goods" [])).renderer .postgres).run { context := later } =
          .ok () ⟨later, piece⟩ := by
  have hrender : (Node.statement (adjusting "goods" [])).render .postgres =
      .ok (adjusted "\"goods\" AS \"b\"" "") := by
    decide +kernel
  obtain ⟨done, hlayout, hquery⟩ := Node.run_of_render hrender
  have hrun : ((Node.statement (adjusting "goods" [])).renderer .postgres).run {} =
      .ok () done := hlayout
  have hdone : done.context.roster = (Rendition.mk (.statement (adjusting "goods" [])) 0 ∅).roster
      .postgres .empty := by
    show _ = (Renderer.final
      (((Node.statement (adjusting "goods" [])).renderer .postgres).run {})).context.roster
    rw [hrun]
    rfl
  obtain ⟨piece, -, houtput, hagain⟩ := Node.renders_again hrun
  refine ⟨done, hrun, hquery, ?_, ?_, piece, houtput, (hagain interruptions).1⟩
  · rw [hdone]
    decide +kernel
  · show (done.context.roster.afterAll .postgres interruptions).size = 4
    rw [hdone]
    decide +kernel

end BoundSql
