import BoundSql.Proofs.Relabeling.Run

/-!
# The text does not depend on the values

Two nodes that differ only in their bound values are rendered alike: both fail with the same error,
or both yield the same text, with the values of each at the same places
(`Node.outcome_mapValues`). No value is ever spelled in the text, and no check looks at one.
-/

set_option autoImplicit false
set_option relaxedAutoImplicit false

namespace BoundSql

/-- Every bound value of a node replaced, at any depth. -/
def Node.mapValues (f : Value → Value) (node : Node) : Node := node.relabel (.ofValues f)

/-- A query with its parameters replaced. -/
def Query.mapParams (f : Value → Value) (query : Query) : Query :=
  ⟨query.sql, query.params.map f⟩

/-- The two outcomes hand out the same aliases and are the same failure, or the same text with
parameters that correspond to each other. -/
def Renderer.AgreeUpToValues (style : ParamStyle) (f : Value → Value) :
    EStateM.Result Refusal RenderState Unit → EStateM.Result Refusal RenderState Unit → Prop
  | .ok _ first, .ok _ second =>
    second.context = first.context ∧
      second.output.toQuery style = (first.output.toQuery style).mapParams f
  | .error first before, .error second after => second = first ∧ after.context = before.context
  | _, _ => False

/-- A relabeling of values leaves the aliases as they are. -/
theorem Context.relabel_ofValues (f : Value → Value) (context : Context) :
    context.relabel (.ofValues f) = context := by
  have hroster : context.roster.relabel (.ofValues f) = context.roster :=
    Roster.ext (List.map_id context.roster.members)
  rw [Context.relabel, hroster]

theorem Renderer.agreeUpToValues_relabelOutcome (style : ParamStyle) (f : Value → Value)
    (outcome : EStateM.Result Refusal RenderState Unit) :
    AgreeUpToValues style f outcome (relabelOutcome (.ofValues f) id outcome) := by
  cases outcome with
  | ok result state =>
    exact ⟨Context.relabel_ofValues f state.context, Piece.toQuery_relabel state.output style⟩
  | error error state => exact ⟨rfl, Context.relabel_ofValues f state.context⟩

/-- From every context, a node with other values gives the same outcome up to its values. -/
theorem Node.agreeUpToValues_mapValues (f : Value → Value) (d : Dialect) (context : Context)
    (node : Node) :
    Renderer.AgreeUpToValues d.paramStyle f ((node.renderer d).run { context := context })
      (((node.mapValues f).renderer d).run { context := context }) := by
  have hmirrors := Node.mirrors_renderer (m := .ofValues f) (d := d) (fun _ ↦ rfl) node
    { context := context }
  rw [RenderState.relabel, Context.relabel_ofValues, Piece.relabel_empty] at hmirrors
  change Renderer.AgreeUpToValues _ _ _ ((node.relabel (.ofValues f)).renderer d _)
  rw [hmirrors]
  exact Renderer.agreeUpToValues_relabelOutcome _ _ _

/-- Bound values never influence the text. -/
theorem Node.outcome_mapValues (f : Value → Value) (d : Dialect) (context : Context)
    (node : Node) :
    Renderer.AgreeUpToValues d.paramStyle f ((node.renderer d).run { context := context })
        (((node.mapValues f).renderer d).run { context := context }) ∧
      (node.mapValues f).render d = (node.render d).map (Query.mapParams f) := by
  refine ⟨node.agreeUpToValues_mapValues f d context, ?_⟩
  have hagree := node.agreeUpToValues_mapValues f d {}
  unfold Node.render
  generalize (node.renderer d).run {} = outcome at hagree ⊢
  generalize ((node.mapValues f).renderer d).run {} = mapped at hagree ⊢
  cases outcome with
  | ok result state =>
    cases mapped with
    | ok mappedResult mappedState => exact congrArg Except.ok hagree.2
    | error error mappedState => exact hagree.elim
  | error error state =>
    cases mapped with
    | ok mappedResult mappedState => exact hagree.elim
    | error mappedError mappedState => exact congrArg Except.error hagree.1

end BoundSql
