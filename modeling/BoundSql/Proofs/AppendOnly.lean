import BoundSql.Proofs.PieceAssembly
import BoundSql.Render
import Mathlib.Data.List.Nodup

/-!
# Rendering only appends

A rendering, completed or failed, does the same whatever has been written before it: it puts behind
the earlier text what it would write into an empty piece, and it leaves the same aliases behind. Of
the context it started from it keeps the depth and every alias, and new relations are listed behind
the old ones, so that they take the next aliases in turn. `Renderer.AppendsOnly` says this of an
action; it holds of going through any layout (`Layout.appendsOnly_run`) and so of every node
(`Node.appends_only`).
-/

set_option autoImplicit false
set_option relaxedAutoImplicit false

namespace BoundSql

/-! ### Longer contexts -/

/-- The later context is as deep as the earlier one and lists the same relations in front. -/
structure Context.Extends (earlier later : Context) : Prop where
  depth_eq : later.depth = earlier.depth
  lists : earlier.roster.members <+: later.roster.members

namespace Context.Extends

variable {first middle last : Context}

/-- A context extends itself. -/
theorem refl (context : Context) : context.Extends context :=
  ⟨rfl, List.prefix_rfl⟩

/-- What extends a longer context extends the shorter one. -/
theorem trans (hfirst : first.Extends middle) (hlast : middle.Extends last) :
    first.Extends last :=
  ⟨hlast.depth_eq.trans hfirst.depth_eq, hfirst.lists.trans hlast.lists⟩

/-- A visit lists a relation behind all others, if it is not listed yet. -/
theorem visit (context : Context) (relation : Identity) :
    context.Extends { context with roster := context.roster.visit relation } := by
  refine ⟨rfl, ?_⟩
  show context.roster.members <+: (context.roster.visit relation).members
  by_cases hlisted : relation ∈ context.roster.members
  · simp [Roster.visit_eq_self hlisted]
  · rw [Roster.members_visit hlisted]
    exact List.prefix_append _ _

/-- A context and what extends it stand both inside a statement or both outside. -/
theorem insideStatement_eq (hlast : first.Extends last) :
    last.insideStatement = first.insideStatement := by
  unfold insideStatement
  rw [hlast.depth_eq]

/-- Every relation that had an alias still has it. -/
theorem aliasOf_eq (hlast : first.Extends last) {relation : Identity}
    (hlisted : relation ∈ first.roster.members) :
    last.roster.aliasOf relation = first.roster.aliasOf relation := by
  obtain ⟨newcomers, hmembers⟩ := hlast.lists
  unfold Roster.aliasOf
  rw [← hmembers, List.idxOf_append_of_mem hlisted]

/-- New relations take the aliases that come next. -/
theorem exists_newcomers (hlast : first.Extends last) :
    ∃ newcomers : List Identity, last.roster.members = first.roster.members ++ newcomers ∧
      ∀ (place : Nat) (hplace : place < newcomers.length),
        newcomers[place] ∉ first.roster.members ∧
          last.roster.aliasOf newcomers[place] = aliasWord (first.roster.size + place) := by
  obtain ⟨newcomers, hmembers⟩ := hlast.lists
  refine ⟨newcomers, hmembers.symm, ?_⟩
  intro place hplace
  -- No relation is listed twice, so a newcomer stands at one place and is not an old member.
  have hdistinct : (first.roster.members ++ newcomers).Nodup := by
    rw [hmembers]
    exact last.roster.distinct
  obtain ⟨-, hnewcomers, hdisjoint⟩ := List.nodup_append'.mp hdistinct
  have hnew : newcomers[place] ∉ first.roster.members := by
    intro hold
    exact hdisjoint hold (List.getElem_mem hplace)
  refine ⟨hnew, ?_⟩
  unfold Roster.aliasOf Roster.size
  rw [← hmembers, List.idxOf_append_of_notMem hnew, hnewcomers.idxOf_getElem place hplace]

end Context.Extends

/-! ### Actions -/

namespace Renderer

variable {α β : Type}

/-- What is known when an action is over, completed or failed. -/
def final : EStateM.Result Refusal RenderState α → RenderState
  | .ok _ after => after
  | .error _ after => after

/-- The outcome of an action with a piece in front of all that it has written. -/
def behind (written : Piece) :
    EStateM.Result Refusal RenderState α → EStateM.Result Refusal RenderState α
  | .ok result after => .ok result { after with output := written ++ after.output }
  | .error error after => .error error { after with output := written ++ after.output }

/-- An outcome behind two outputs in turn is the outcome behind both. -/
theorem behind_behind (earlier later : Piece) (outcome : EStateM.Result Refusal RenderState α) :
    behind earlier (behind later outcome) = behind (earlier ++ later) outcome := by
  cases outcome with
  | ok result after => simp only [behind, Piece.append_assoc]
  | error error after => simp only [behind, Piece.append_assoc]

/-- What has been written before does not show in the context. -/
theorem context_final_behind (written : Piece)
    (outcome : EStateM.Result Refusal RenderState α) :
    (final (behind written outcome)).context = (final outcome).context := by
  cases outcome <;> rfl

/-- What has been written before stands in front of what is written. -/
theorem output_final_behind (written : Piece)
    (outcome : EStateM.Result Refusal RenderState α) :
    (final (behind written outcome)).output = written ++ (final outcome).output := by
  cases outcome <;> rfl

/-- The action does the same whatever has been written before: it writes behind it, and it only adds
to the aliases. -/
structure AppendsOnly (action : Renderer α) : Prop where
  outcome_eq : ∀ (context : Context) (written : Piece),
    action ⟨context, written⟩ = behind written (action ⟨context, ∅⟩)
  context_extends : ∀ context : Context, context.Extends (final (action ⟨context, ∅⟩)).context

theorem appendsOnly_pure (result : α) : AppendsOnly (pure result) :=
  ⟨fun _ _ ↦ rfl, fun context ↦ .refl context⟩

/-- An error leaves the state as it is. -/
theorem appendsOnly_throw (error : Refusal) : AppendsOnly (throw error : Renderer α) :=
  ⟨fun _ _ ↦ rfl, fun context ↦ .refl context⟩

/-- One action after the other: the second writes behind what the first has written. -/
theorem AppendsOnly.bind {action : Renderer α} {next : α → Renderer β}
    (haction : AppendsOnly action) (hnext : ∀ result, AppendsOnly (next result)) :
    AppendsOnly (action >>= next) := by
  constructor
  · intro context written
    simp only [Bind.bind, EStateM.bind, haction.outcome_eq context written]
    cases action ⟨context, ∅⟩ with
    | error error after => rfl
    | ok result after =>
      show next result ⟨after.context, written ++ after.output⟩ =
        behind written (next result ⟨after.context, after.output⟩)
      rw [(hnext result).outcome_eq, (hnext result).outcome_eq after.context after.output,
        behind_behind]
  · intro context
    have hfirst := haction.context_extends context
    simp only [Bind.bind, EStateM.bind]
    cases haction : action ⟨context, ∅⟩ with
    | error error after =>
      rw [haction] at hfirst
      exact hfirst
    | ok result after =>
      rw [haction] at hfirst
      show context.Extends (final (next result ⟨after.context, after.output⟩)).context
      rw [(hnext result).outcome_eq, context_final_behind]
      exact hfirst.trans ((hnext result).context_extends after.context)

theorem appendsOnly_write (characters : String) : AppendsOnly (write characters) := by
  refine ⟨?_, fun context ↦ .refl context⟩
  intro context written
  exact congrArg (fun output ↦ EStateM.Result.ok () (RenderState.mk context output))
    (Piece.append_pushPart written ∅ (.text characters)).symm

theorem appendsOnly_bindValue (bound : Value) : AppendsOnly (bindValue bound) := by
  refine ⟨?_, fun context ↦ .refl context⟩
  intro context written
  exact congrArg (fun output ↦ EStateM.Result.ok () (RenderState.mk context output))
    (Piece.append_pushPart written ∅ (.value bound)).symm

/-- What has been held is appended. -/
theorem appendsOnly_emit (piece : Piece) : AppendsOnly (emit piece) := by
  refine ⟨?_, fun context ↦ .refl context⟩
  intro context written
  exact congrArg (fun output ↦ EStateM.Result.ok () (RenderState.mk context output))
    (Piece.append_assoc written ∅ piece)

/-- A name is quoted, or refused, without a look at the state. -/
theorem appendsOnly_quote (d : Dialect) (name : String) : AppendsOnly (quote d name) := by
  unfold quote
  cases d.quoteName name with
  | ok quoted => exact appendsOnly_pure quoted
  | error error => exact appendsOnly_throw error

theorem appendsOnly_visit (relation : Identity) : AppendsOnly (visit relation) :=
  ⟨fun _ _ ↦ rfl, fun context ↦ .visit context relation⟩

/-- An alias is quoted, or refused, behind any output alike. -/
theorem appendsOnly_visitQuoted (d : Dialect) (relation : Identity) :
    AppendsOnly (visitQuoted d relation) :=
  (appendsOnly_visit relation).bind fun given ↦ appendsOnly_quote d given

theorem appendsOnly_insideStatement : AppendsOnly insideStatement :=
  ⟨fun _ _ ↦ rfl, fun context ↦ .refl context⟩

/-- The depth is restored, also when the action fails. -/
theorem AppendsOnly.deeper {action : Renderer α} (haction : AppendsOnly action) :
    AppendsOnly (Renderer.deeper action) := by
  constructor
  · intro context written
    have hinner := haction.outcome_eq { context with depth := context.depth + 1 } written
    unfold Renderer.deeper
    simp only [hinner]
    cases action ⟨{ context with depth := context.depth + 1 }, ∅⟩ <;> rfl
  · intro context
    obtain ⟨hdepth, hlists⟩ :=
      haction.context_extends { context with depth := context.depth + 1 }
    unfold Renderer.deeper
    cases houtcome : action ⟨{ context with depth := context.depth + 1 }, ∅⟩ with
    | ok result after =>
      simp only [houtcome, final] at hdepth hlists ⊢
      exact ⟨by simp only [hdepth, Nat.add_sub_cancel], hlists⟩
    | error error after =>
      simp only [houtcome, final] at hdepth hlists ⊢
      exact ⟨by simp only [hdepth, Nat.add_sub_cancel], hlists⟩

/-- What is held back is not written yet. -/
theorem AppendsOnly.held {action : Renderer Unit} (haction : AppendsOnly action) :
    AppendsOnly (Renderer.held action) := by
  constructor
  · intro context written
    unfold Renderer.held
    cases action ⟨context, ∅⟩ <;> rfl
  · intro context
    have hcontext := haction.context_extends context
    unfold Renderer.held
    cases houtcome : action ⟨context, ∅⟩ with
    | ok result after =>
      rw [houtcome] at hcontext
      exact hcontext
    | error error after =>
      rw [houtcome] at hcontext
      exact hcontext

end Renderer

/-- Going through a layout only appends. -/
theorem Layout.appendsOnly_run (d : Dialect) (layout : Layout) :
    Renderer.AppendsOnly (layout.run d) := by
  induction layout with
  | nothing => exact Renderer.appendsOnly_pure ()
  | text characters => exact Renderer.appendsOnly_write characters
  | placeholder bound => exact Renderer.appendsOnly_bindValue bound
  | identifier name =>
    exact (Renderer.appendsOnly_quote d name).bind fun quoted ↦ Renderer.appendsOnly_write quoted
  | visit relation =>
    exact (Renderer.appendsOnly_visit relation).bind fun _ ↦ Renderer.appendsOnly_pure ()
  | relationAlias lead relation =>
    exact (Renderer.appendsOnly_visitQuoted d relation).bind fun quoted ↦
      (Renderer.appendsOnly_write lead).bind fun _ ↦ Renderer.appendsOnly_write quoted
  | qualifier relation =>
    refine Renderer.appendsOnly_insideStatement.bind fun inside ↦ ?_
    cases inside with
    | false => exact Renderer.appendsOnly_pure ()
    | true =>
      exact (Renderer.appendsOnly_visitQuoted d relation).bind fun quoted ↦
        (Renderer.appendsOnly_write quoted).bind fun _ ↦ Renderer.appendsOnly_write "."
  | fail error => exact Renderer.appendsOnly_throw error
  | seq first second hfirst hsecond => exact hfirst.bind fun _ ↦ hsecond
  | scope body hbody => exact hbody.deeper
  | frame prologue body front link hprologue hbody hfront hlink =>
    exact hprologue.held.bind fun opening ↦ hbody.held.bind fun closing ↦
      hfront.held.bind fun heading ↦ (Renderer.appendsOnly_emit opening).bind fun _ ↦
        (Renderer.appendsOnly_emit heading).bind fun _ ↦ hlink.bind fun _ ↦
          Renderer.appendsOnly_emit closing

/-- From every context and behind every earlier text, a node that is rendered, completely or in
part, writes what it writes into an empty piece, with the same outcome and the same context after
it. The rendering is inside of as many statements as before, every alias is kept, and new relations
take the next aliases in turn. -/
theorem Node.appends_only (d : Dialect) (node : Node) (context : Context) (written : Piece) :
    let apart := (node.renderer d).run { context := context }
    let outcome := (node.renderer d).run { context := context, output := written }
    let after := (Renderer.final outcome).context
    outcome = Renderer.behind written apart ∧
      after.insideStatement = context.insideStatement ∧
      (∀ relation ∈ context.roster.members,
        after.roster.aliasOf relation = context.roster.aliasOf relation) ∧
      ∃ newcomers : List Identity, after.roster.members = context.roster.members ++ newcomers ∧
        ∀ (place : Nat) (hplace : place < newcomers.length),
          newcomers[place] ∉ context.roster.members ∧
            after.roster.aliasOf newcomers[place] = aliasWord (context.roster.size + place) := by
  intro apart outcome after
  have hrun := Layout.appendsOnly_run d (node.layout d)
  have houtcome : outcome = Renderer.behind written apart := hrun.outcome_eq context written
  have hextends : context.Extends after := by
    show context.Extends (Renderer.final outcome).context
    rw [houtcome, Renderer.context_final_behind]
    exact hrun.context_extends context
  exact ⟨houtcome, hextends.insideStatement_eq, fun _ hlisted ↦ hextends.aliasOf_eq hlisted,
    hextends.exists_newcomers⟩

/-- A sum whose right operand cannot be written, because it has no name. -/
def unnamedSummand : Expr := .binary .add (.column ⟨⟨0⟩, "price"⟩) (.excluded "")

/-- Inside a statement that has handed out one alias, the sum fails when its left operand is written
already. What it has written stands behind the earlier text, and its relation has the next alias. -/
theorem appends_only_unnamedSummand :
    let before : RenderState := ⟨⟨⟨[⟨7⟩], by simp⟩, 1⟩, ⟨[.text "SET total = "]⟩⟩
    let after := Renderer.final (((Node.expr unnamedSummand).renderer .postgres).run before)
    after.output = ⟨[.text "SET total = (\"b\".\"price\" + EXCLUDED."]⟩ ∧
      after.context.insideStatement = true ∧ after.context.roster.aliasOf ⟨7⟩ = "a" ∧
      after.context.roster.aliasOf ⟨0⟩ = "b" := by
  intro before after
  obtain ⟨houtcome, hinside, hkept, newcomers, hmembers, hnewcomers⟩ :=
    Node.appends_only .postgres (.expr unnamedSummand) before.context before.output
  have hapart : (Renderer.final (((Node.expr unnamedSummand).renderer .postgres).run
      { context := before.context })).output = ⟨[.text "(\"b\".\"price\" + EXCLUDED."]⟩ := by
    decide +kernel
  have hlisted : after.context.roster.members = [⟨7⟩, ⟨0⟩] := by decide +kernel
  have hnew : newcomers = [⟨0⟩] := (List.append_right_inj _).mp (hmembers.symm.trans hlisted)
  subst hnew
  refine ⟨?_, hinside, ?_, ?_⟩
  · show (Renderer.final (((Node.expr unnamedSummand).renderer .postgres).run
      ⟨before.context, before.output⟩)).output = _
    rw [houtcome, Renderer.output_final_behind, hapart]
    decide
  · exact (hkept ⟨7⟩ (by decide)).trans (by decide +kernel)
  · exact (hnewcomers 0 (by decide)).2.trans (by decide +kernel)

end BoundSql
