import BoundSql.Identifier
import BoundSql.Layout.Basic
import BoundSql.Piece

/-!
# Going through a layout

A `Renderer` hands out aliases and writes into a piece; when it fails, the aliases it has handed
out and the text it has written are still there. `Layout.run` goes through a layout. The state
that renderings share is a `Context`: the aliases handed out so far, and how many statements the
rendering is inside of.
-/

set_option autoImplicit false
set_option relaxedAutoImplicit false

namespace BoundSql

/-- What is known between two renderings. -/
structure Context where
  /-- The aliases handed out so far. -/
  roster : Roster := .empty
  /-- How many statements the rendering is inside of. -/
  depth : Nat := 0
deriving Inhabited

/-- Tells whether the rendering is inside a statement. -/
def Context.insideStatement (context : Context) : Bool := 0 < context.depth

/-- What is known in the middle of a rendering. -/
structure RenderState where
  /-- What later renderings will know. -/
  context : Context := {}
  /-- What is written so far. -/
  output : Piece := ∅
deriving Inhabited

/-- An action that writes and hands out aliases, and that keeps what it did when it fails. -/
abbrev Renderer := EStateM Refusal RenderState

namespace Renderer

/-- Writes text. -/
def write (characters : String) : Renderer Unit :=
  modify fun state ↦ { state with output := state.output.pushText characters }

/-- Writes a value as a placeholder. -/
def bindValue (bound : Value) : Renderer Unit :=
  modify fun state ↦ { state with output := state.output.pushValue bound }

/-- Writes a finished piece. -/
def emit (piece : Piece) : Renderer Unit :=
  modify fun state ↦ { state with output := state.output ++ piece }

/-- The quoted form of a name. -/
def quote (d : Dialect) (name : String) : Renderer String :=
  match d.quoteName name with
  | .ok quoted => pure quoted
  | .error error => throw error

/-- Meets a relation, and yields its alias. -/
def visit (relation : Identity) : Renderer String := do
  let state ← get
  let roster := state.context.roster
  set { state with context := { state.context with roster := roster.visit relation } }
  pure (roster.aliasOf relation)

/-- Meets a relation, and yields its quoted alias. -/
def visitQuoted (d : Dialect) (relation : Identity) : Renderer String := do
  let given ← visit relation
  quote d given

/-- Tells whether the rendering is inside a statement. -/
def insideStatement : Renderer Bool := do
  let state ← get
  pure state.context.insideStatement

/-- Runs an action one statement deeper. -/
def deeper {α : Type} (action : Renderer α) : Renderer α := fun state ↦
  match action { state with
      context := { state.context with depth := state.context.depth + 1 } } with
  | .ok result after =>
    .ok result { after with context := { after.context with depth := after.context.depth - 1 } }
  | .error error after =>
    .error error { after with context := { after.context with depth := after.context.depth - 1 } }

/-- What an action writes, kept apart from what is written already. -/
def held (action : Renderer Unit) : Renderer Piece := fun state ↦
  match action { state with output := ∅ } with
  | .ok _ after => .ok after.output { after with output := state.output }
  | .error error after => .error error { after with output := state.output }

end Renderer

namespace Layout

/-- Goes through a layout under a dialect. -/
def run (d : Dialect) : Layout → Renderer Unit
  | nothing => pure ()
  | text characters => Renderer.write characters
  | placeholder bound => Renderer.bindValue bound
  | identifier name => do
    let quoted ← Renderer.quote d name
    Renderer.write quoted
  | visit relation => do
    let _ ← Renderer.visit relation
  | relationAlias lead relation => do
    let quoted ← Renderer.visitQuoted d relation
    Renderer.write lead
    Renderer.write quoted
  | qualifier relation => do
    if ← Renderer.insideStatement then
      let quoted ← Renderer.visitQuoted d relation
      Renderer.write quoted
      Renderer.write "."
  | fail error => throw error
  | seq first second => do
    run d first
    run d second
  | scope body => Renderer.deeper (run d body)
  | frame prologue body front link => do
    let opening ← Renderer.held (run d prologue)
    let closing ← Renderer.held (run d body)
    let heading ← Renderer.held (run d front)
    Renderer.emit opening
    Renderer.emit heading
    run d link
    Renderer.emit closing

end Layout

end BoundSql
