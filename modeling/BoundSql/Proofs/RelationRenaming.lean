import BoundSql.Proofs.Relabeling.Run
import BoundSql.Proofs.TwoPassRendering

/-!
# Relations are told apart and nothing else

The identities of relations are compared and never looked at. If all identities of a tree are
renamed, and different ones stay different, then the tree is rendered as before: with the same text
and the same parameters, or with the same error (`Node.render_rename`). Which identities a tree got
depends on how many had been handed out before and on the order in which its relations were
constructed; its query depends on neither.
-/

set_option autoImplicit false
set_option relaxedAutoImplicit false

namespace BoundSql

/-! ### Renamed trees -/

/-- The relabeling that replaces identities only. -/
def Relabeling.ofRelations (f : Identity → Identity) (hf : Function.Injective f) : Relabeling where
  relation := f
  name_ne_wildcard _ hname := hname
  relation_injective _ _ hsame := hf hsame

/-- Every identity of a node renamed, at any depth. -/
def Node.rename (f : Identity → Identity) (hf : Function.Injective f) (node : Node) : Node :=
  node.relabel (.ofRelations f hf)

variable (f : Identity → Identity) (hf : Function.Injective f)

/-- No identity is written. -/
theorem Piece.relabel_ofRelations (piece : Piece) :
    piece.relabel (.ofRelations f hf) = piece := by
  have hparts : ∀ parts : List Part, parts.map (Part.relabel (.ofRelations f hf)) = parts := by
    intro parts
    induction parts with
    | nil => rfl
    | cons part rest ih =>
      rw [List.map_cons, ih]
      cases part <;> rfl
  show Piece.mk (piece.latestFirst.map _) = piece
  rw [hparts]

/-- From renamed aliases, the renamed node does what the node does: it writes the same, it fails
with the same error if it fails, and it leaves the renamed aliases behind. -/
theorem Node.run_rename (d : Dialect) (node : Node) (context : Context) :
    ((node.rename f hf).renderer d).run { context := context.relabel (.ofRelations f hf) } =
      match (node.renderer d).run { context := context } with
      | .ok result after =>
        .ok result { after with context := after.context.relabel (.ofRelations f hf) }
      | .error error after =>
        .error error { after with context := after.context.relabel (.ofRelations f hf) } := by
  have hmirrors := Node.mirrors_renderer (m := .ofRelations f hf) (d := d) (fun _ ↦ rfl) node
    { context := context }
  show (node.relabel _).renderer d _ = match node.renderer d { context := context } with
    | .ok result after => _
    | .error error after => _
  rw [RenderState.relabel, Piece.relabel_empty] at hmirrors
  rw [hmirrors]
  cases node.renderer d { context := context } with
  | ok result after =>
    simp only [Renderer.relabelOutcome, RenderState.relabel, Piece.relabel_ofRelations, id]
  | error error after =>
    simp only [Renderer.relabelOutcome, RenderState.relabel, Piece.relabel_ofRelations]

/-! ### Handing out identities -/

namespace IdentitySupply

/-- The identity that a supply hands out after a number of others. -/
def handOut : IdentitySupply → Nat → Identity
  | supply, 0 => supply.fresh.1
  | supply, later + 1 => supply.fresh.2.handOut later

/-- The identities that are handed out are numbered from the first unused one. -/
theorem handOut_eq (supply : IdentitySupply) (later : Nat) :
    supply.handOut later = ⟨supply.used + later⟩ := by
  induction later generalizing supply with
  | zero => rfl
  | succ later ih =>
    rw [handOut, ih]
    show Identity.mk (supply.used + 1 + later) = ⟨supply.used + (later + 1)⟩
    rw [Nat.add_assoc, Nat.add_comm 1]

/-- The identities of relations that are numbered from zero and constructed in another order:
`place` says how many of them are constructed before each. -/
def construct (supply : IdentitySupply) (place : Nat → Nat) (relation : Identity) : Identity :=
  supply.handOut (place relation.number)

/-- Constructions at different places have different identities. -/
theorem construct_injective (supply : IdentitySupply) {place : Nat → Nat}
    (hplace : Function.Injective place) : Function.Injective (supply.construct place) := by
  intro first second hsame
  simp only [construct, handOut_eq, Identity.mk.injEq, Nat.add_left_cancel_iff] at hsame
  cases first
  cases second
  exact congrArg Identity.mk (hplace hsame)

end IdentitySupply

/-! ### The query of a renamed tree -/

/-- Replacing identities one for one does not change what is rendered. -/
theorem Node.render_rename_eq (d : Dialect) (node : Node) :
    (node.rename f hf).render d = node.render d := by
  have hstart : (Context.relabel (.ofRelations f hf) {} : Context) = {} := rfl
  have hrun := Node.run_rename f hf d node {}
  rw [hstart] at hrun
  unfold Node.render
  rw [hrun]
  cases (node.renderer d).run {} <;> rfl

/-- Relations are only told apart: a tree whose identities are renamed without making two of them
one is rendered with the same text and the same parameters, or with the same error. In particular
the outcome depends neither on how many identities had been handed out before nor on the order in
which the relations of the tree were constructed. -/
theorem Node.render_rename (d : Dialect) (node : Node) :
    (node.rename f hf).render d = node.render d ∧
      ∀ (supply : IdentitySupply) (place : Nat → Nat) (hplace : Function.Injective place),
        (node.rename (supply.construct place) (supply.construct_injective hplace)).render d =
          node.render d :=
  ⟨Node.render_rename_eq f hf d node, fun _ _ _ ↦ Node.render_rename_eq _ _ d node⟩

/-- Identities with gaps between them, none of them below the fifth. -/
def spreadOut (relation : Identity) : Identity := ⟨3 * relation.number + 5⟩

theorem spreadOut_injective : Function.Injective spreadOut := by
  rintro ⟨first⟩ ⟨second⟩ hsame
  have hnumbers : 3 * first + 5 = 3 * second + 5 := congrArg Identity.number hsame
  exact congrArg Identity.mk (by omega)

/-- The first four numbers turned around. -/
def turnedAround (number : Nat) : Nat := if number < 4 then 3 - number else number

theorem turnedAround_injective : Function.Injective turnedAround := by
  intro first second hsame
  unfold turnedAround at hsame
  split at hsame <;> split at hsame <;> omega

/-- The UPDATE is rendered as before when its four relations have other identities, and also when
they are constructed in the opposite order after a hundred others. -/
theorem render_rename_repricing :
    Function.Injective spreadOut ∧
      ((repricing "goods" "price").rename spreadOut spreadOut_injective).render .postgres =
        .ok (repriced "goods" "price") ∧
      IdentitySupply.construct ⟨100⟩ turnedAround ⟨0⟩ = ⟨103⟩ ∧
      ((repricing "goods" "price").rename (IdentitySupply.construct ⟨100⟩ turnedAround)
          (IdentitySupply.construct_injective ⟨100⟩ turnedAround_injective)).render .postgres =
        .ok (repriced "goods" "price") := by
  obtain ⟨hrenamed, hconstructed⟩ :=
    Node.render_rename spreadOut spreadOut_injective .postgres (repricing "goods" "price")
  exact ⟨spreadOut_injective, hrenamed.trans render_repricing, by decide,
    (hconstructed ⟨100⟩ turnedAround turnedAround_injective).trans render_repricing⟩

end BoundSql
