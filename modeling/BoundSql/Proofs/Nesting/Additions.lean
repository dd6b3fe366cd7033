import BoundSql.Proofs.ExactAcceptance
import BoundSql.Proofs.Nesting.Standing
import BoundSql.Proofs.Reading.Spelling

/-!
# What a run adds to the text

A node can be rendered behind anything written and inside of any number of statements. What a
completed run adds to the text is the text of its tokens, with the aliases that are handed out in
the end and with the placeholders numbered on (`Node.sql_of_run`). It binds the values of the node
and meets its relations, in order (`Node.values_of_run`, `Node.context_of_run`). A statement of any
depth stands whole in what is added (`Node.exists_added_of_run`).
-/

set_option autoImplicit false
set_option relaxedAutoImplicit false

namespace BoundSql

/-- The text that is written so far. -/
def RenderState.sql (d : Dialect) (state : RenderState) : String :=
  (state.output.toQuery d.paramStyle).sql

/-- The number of values that are bound so far. -/
def RenderState.bound (state : RenderState) : Nat := state.output.values.length

namespace Node

variable {d : Dialect} {node : Node} {before after : RenderState}

/-- A completed run adds the text of the tokens of its node. -/
theorem sql_of_run (hrun : (node.renderer d).run before = .ok () after) :
    after.sql d = before.sql d ++
      Token.spelled d after.context.roster.aliasOf before.bound
        (node.readAt (.tokens d) before.context.insideStatement) := by
  have hcompletes := Layout.completes_of_run hrun
  rw [RenderState.sql, hcompletes.output_at_end,
    readAt_layout (Reading.tokens_fits d) _ node hcompletes.accepted, Piece.toQuery,
    Piece.spell_parts_pushParts, Part.spell_append, Nat.zero_add]
  rfl

/-- A completed run binds the values of its node behind those that are bound already. -/
theorem values_of_run (hrun : (node.renderer d).run before = .ok () after) :
    after.output.values =
      before.output.values ++ node.readAt .literals before.context.insideStatement := by
  have hcompletes := Layout.completes_of_run hrun
  rw [hcompletes.output_at_end, Piece.values_pushParts, Token.values_map_part,
    ← Layout.read_literals, readAt_layout (Reading.literals_fits d) _ node hcompletes.accepted]

/-- A completed run meets the relations of its node. -/
theorem context_of_run (hrun : (node.renderer d).run before = .ok () after) :
    after.context =
      before.context.meet (node.readAt (.meetings d) before.context.insideStatement) := by
  have hcompletes := Layout.completes_of_run hrun
  rw [hcompletes.context_eq,
    readAt_layout (Reading.meetings_fits d) _ node hcompletes.accepted]

/-- Where a run completes, it adds a text in which every statement of its node stands whole. -/
theorem exists_added_of_run (hrun : (node.renderer d).run before = .ok () after) :
    ∃ added, after.sql d = before.sql d ++ added ∧
      ∀ inner ∈ node.statements, inner.WellFormed d ∧
        ∃ earlier position later,
          added = earlier ++
            Token.spelled d after.context.roster.aliasOf position (inner.read (.tokens d)) ++
              later := by
  refine ⟨_, sql_of_run hrun, fun inner hinner ↦ ?_⟩
  have hformed := (accepted_layout_iff node).mp (Layout.completes_of_run hrun).accepted
  have hstands := node.stands_at (r := Reading.tokens d) rfl before.context.insideStatement hinner
    hformed
  obtain ⟨earlier, later, htokens⟩ := hstands.within
  refine ⟨hstands.formed, ?_⟩
  rw [← htokens, Token.spelled_append, Token.spelled_append]
  exact ⟨_, _, _, rfl⟩

end Node

end BoundSql
