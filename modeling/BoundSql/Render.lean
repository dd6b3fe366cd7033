import BoundSql.Layout.Run
import BoundSql.Tree.Layout

/-!
# Rendering

A `Node` is any part of a tree that can be rendered on its own. `Node.renderer` writes a node at the
end of what is written already and continues the aliases handed out before; `Node.render` starts
from nothing and yields the finished query. Rendering keeps nothing between two calls, so a tree
can be changed and rendered again at any time.
-/

set_option autoImplicit false
set_option relaxedAutoImplicit false

namespace BoundSql

/-- A part of a tree that can be rendered on its own. -/
inductive Node where
  /-- A statement. -/
  | statement (tree : Statement)
  /-- An expression. -/
  | expr (tree : Expr)
  /-- An item of a select list or of a RETURNING clause. -/
  | item (tree : ResultItem)
  /-- A sort key. -/
  | order (tree : OrderTerm)
  /-- An assignment. -/
  | assignment (tree : Assignment)
  /-- A source of rows. -/
  | source (tree : RowSource)
  /-- An ON CONFLICT clause. -/
  | conflict (tree : ConflictClause)

namespace Node

/-- The layout of a node. -/
def layout (d : Dialect) : Node → Layout
  | statement tree => tree.layout d
  | expr tree => tree.layout d
  | item tree => tree.layout d
  | order tree => tree.layout d
  | assignment tree => tree.layout d
  | source tree => tree.layout d
  | conflict tree => tree.layout d

/-- Writes a node at the end of what is written already. -/
def renderer (d : Dialect) (node : Node) : Renderer Unit := (node.layout d).run d

/-- The query of a node under a dialect. -/
def render (d : Dialect) (node : Node) : Except Refusal Query :=
  match (node.renderer d).run {} with
  | .ok _ state => .ok (state.output.toQuery d.paramStyle)
  | .error error _ => .error error

end Node

/-- Writes the alias of a relation behind its name. -/
def Renderer.writeRelationAlias (d : Dialect) (relation : Identity) : Renderer Unit :=
  (Layout.relationAlias d.aliasLead relation).run d

end BoundSql
