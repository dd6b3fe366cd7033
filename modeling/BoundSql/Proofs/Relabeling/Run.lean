import BoundSql.Proofs.Relabeling.Layout
import Mathlib.Data.List.Nodup

/-!
# Going through a relabeled layout

A renderer that goes through a relabeled layout, from relabeled states, does at every step what it
does with the layout itself: it completes or fails with the same error, hands out the same aliases,
and writes the same texts with relabeled values between them (`Layout.mirrors_run`). A renderer
neither looks at a value nor at the number of an identity; it only compares identities.
-/

set_option autoImplicit false
set_option relaxedAutoImplicit false

namespace BoundSql

variable (m : Relabeling)

/-! ### Relabeled states -/

/-- A part with its value replaced. -/
def Part.relabel : Part → Part
  | .text characters => .text characters
  | .value bound => .value (m.value bound)

/-- A piece with its values replaced. -/
def Piece.relabel (piece : Piece) : Piece := ⟨piece.latestFirst.map (Part.relabel m)⟩

/-- A roster with its identities replaced. -/
def Roster.relabel (roster : Roster) : Roster where
  members := roster.members.map m.relation
  distinct := roster.distinct.map fun first second hsame ↦ m.relation_injective first second hsame

/-- A context with its identities replaced. -/
def Context.relabel (context : Context) : Context :=
  { context with roster := context.roster.relabel m }

/-- A state with its identities and its values replaced. -/
def RenderState.relabel (state : RenderState) : RenderState where
  context := state.context.relabel m
  output := state.output.relabel m

/-- The outcome of an action with its state relabeled and its result replaced. -/
def Renderer.relabelOutcome {α β : Type} (f : α → β) :
    EStateM.Result Refusal RenderState α → EStateM.Result Refusal RenderState β
  | .ok result state => .ok (f result) (state.relabel m)
  | .error error state => .error error (state.relabel m)

variable {m}

theorem Piece.relabel_empty : (∅ : Piece).relabel m = ∅ := rfl

/-- Text is pushed onto a relabeled piece as onto the piece itself. -/
theorem Piece.relabel_pushText (piece : Piece) (characters : String) :
    (piece.relabel m).pushText characters = (piece.pushText characters).relabel m := by
  obtain ⟨latestFirst⟩ := piece
  unfold pushText
  split
  · rfl
  · cases latestFirst with
    | nil => rfl
    | cons last earlier => cases last <;> rfl

/-- The replaced value is pushed where the value was. -/
theorem Piece.relabel_pushValue (piece : Piece) (bound : Value) :
    (piece.relabel m).pushValue (m.value bound) = (piece.pushValue bound).relabel m := rfl

/-- The parts of a relabeled piece are the relabeled parts. -/
theorem Piece.parts_relabel (piece : Piece) :
    (piece.relabel m).parts = piece.parts.map (Part.relabel m) := by
  simp [parts, relabel]

/-- A relabeled piece is appended as the piece was. -/
theorem Piece.relabel_append (piece other : Piece) :
    piece.relabel m ++ other.relabel m = (piece ++ other).relabel m := by
  change (other.relabel m).parts.foldl pushPart (piece.relabel m) =
    (other.parts.foldl pushPart piece).relabel m
  rw [parts_relabel]
  generalize other.parts = later
  induction later generalizing piece with
  | nil => rfl
  | cons part rest ih =>
    have hpart : (piece.relabel m).pushPart (part.relabel m) = (piece.pushPart part).relabel m := by
      cases part with
      | text characters => exact relabel_pushText piece characters
      | value bound => exact relabel_pushValue piece bound
    rw [List.map_cons, List.foldl_cons, List.foldl_cons, hpart, ih]

/-- A relation is listed for the first time exactly where its new identity is. -/
theorem Roster.relabel_visit (roster : Roster) (relation : Identity) :
    (roster.relabel m).visit (m.relation relation) = (roster.visit relation).relabel m := by
  have hlisted : m.relation relation ∈ (roster.relabel m).members ↔ relation ∈ roster.members :=
    List.mem_map_of_injective fun first second hsame ↦ m.relation_injective first second hsame
  by_cases hmem : relation ∈ roster.members
  · rw [visit_eq_self hmem, visit_eq_self (hlisted.mpr hmem)]
  · apply Roster.ext
    rw [members_visit fun h ↦ hmem (hlisted.mp h)]
    simp [relabel, members_visit hmem]

/-- A relation keeps its alias under its new identity. -/
theorem Roster.aliasOf_relabel (roster : Roster) (relation : Identity) :
    (roster.relabel m).aliasOf (m.relation relation) = roster.aliasOf relation := by
  have hplace (members : List Identity) :
      (members.map m.relation).idxOf (m.relation relation) = members.idxOf relation := by
    induction members with
    | nil => rfl
    | cons first rest ih =>
      have hfirst : m.relation first = m.relation relation ↔ first = relation :=
        ⟨m.relation_injective _ _, congrArg m.relation⟩
      have hsame : (m.relation first == m.relation relation) = (first == relation) := by
        rw [Bool.eq_iff_iff, beq_iff_eq, beq_iff_eq, hfirst]
      simp only [List.map_cons, List.idxOf_cons, hsame, ih]
  simp only [Roster.aliasOf, relabel, hplace]

/-! ### Actions -/

namespace Renderer

variable {α β γ δ : Type} {d : Dialect}

/-- From relabeled states `mirrored` does what `action` does, with its result replaced. -/
def Mirrors (m : Relabeling) (f : α → β) (action : Renderer α) (mirrored : Renderer β) : Prop :=
  ∀ state : RenderState, mirrored (state.relabel m) = relabelOutcome m f (action state)

/-- An action and the next one are mirrored together, if each is and if the next one is mirrored at
every result. -/
theorem Mirrors.bind {f : α → β} {g : γ → δ} {action : Renderer α} {mirrored : Renderer β}
    {next : α → Renderer γ} {mirroredNext : β → Renderer δ} (haction : Mirrors m f action mirrored)
    (hnext : ∀ result, Mirrors m g (next result) (mirroredNext (f result))) :
    Mirrors m g (action >>= next) (mirrored >>= mirroredNext) := by
  intro state
  simp only [Bind.bind, EStateM.bind, haction state]
  cases action state with
  | ok result after => exact hnext result after
  | error error after => rfl

theorem mirrors_pure (f : α → β) (result : α) :
    Mirrors m f (pure result) (pure (f result)) := fun _ ↦ rfl

/-- An error is thrown as it is. -/
theorem mirrors_throw (f : α → β) (error : Refusal) : Mirrors m f (throw error) (throw error) :=
  fun _ ↦ rfl

/-- Text is written as it is. -/
theorem mirrors_write (characters : String) :
    Mirrors m id (write characters) (write characters) := by
  intro state
  exact congrArg
    (fun output ↦ EStateM.Result.ok () (RenderState.mk (state.context.relabel m) output))
    (Piece.relabel_pushText state.output characters)

/-- The value that is bound is the replaced one. -/
theorem mirrors_bindValue (bound : Value) :
    Mirrors m id (bindValue bound) (bindValue (m.value bound)) := fun _ ↦ rfl

/-- What has been held is emitted with its values replaced. -/
theorem mirrors_emit (piece : Piece) :
    Mirrors m id (emit piece) (emit (piece.relabel m)) := by
  intro state
  exact congrArg
    (fun output ↦ EStateM.Result.ok () (RenderState.mk (state.context.relabel m) output))
    (Piece.relabel_append state.output piece)

/-- A name that is kept is quoted, or refused, as before. -/
theorem mirrors_quote (name : String) : Mirrors m id (quote d name) (quote d name) := by
  unfold quote
  cases d.quoteName name with
  | error error => exact mirrors_throw id error
  | ok quoted => exact mirrors_pure id quoted

/-- The relation that is met has its new identity, and the alias of the old one. -/
theorem mirrors_visit (relation : Identity) :
    Mirrors m id (visit relation) (visit (m.relation relation)) := by
  intro state
  change EStateM.Result.ok _ _ = EStateM.Result.ok _ _
  simp only [RenderState.relabel, Context.relabel, Roster.relabel_visit, Roster.aliasOf_relabel]
  rfl

theorem mirrors_visitQuoted (relation : Identity) :
    Mirrors m id (visitQuoted d relation) (visitQuoted d (m.relation relation)) :=
  (mirrors_visit relation).bind fun given ↦ mirrors_quote given

theorem mirrors_insideStatement : Mirrors m id insideStatement insideStatement := fun _ ↦ rfl

/-- An action is mirrored one level deeper as it is outside. -/
theorem Mirrors.deeper {f : α → β} {action : Renderer α} {mirrored : Renderer β}
    (haction : Mirrors m f action mirrored) :
    Mirrors m f (Renderer.deeper action) (Renderer.deeper mirrored) := by
  intro state
  have hdeeper := haction
    { state with context := { state.context with depth := state.context.depth + 1 } }
  unfold Renderer.deeper
  simp only [RenderState.relabel, Context.relabel] at hdeeper ⊢
  rw [hdeeper]
  generalize action _ = outcome
  cases outcome <;> rfl

/-- What a mirrored action writes is held apart with its values replaced. -/
theorem Mirrors.held {action mirrored : Renderer Unit} (haction : Mirrors m id action mirrored) :
    Mirrors m (Piece.relabel m) (Renderer.held action) (Renderer.held mirrored) := by
  intro state
  have hheld := haction { state with output := ∅ }
  unfold Renderer.held
  simp only [RenderState.relabel, Piece.relabel_empty] at hheld ⊢
  rw [hheld]
  cases action { state with output := ∅ } <;> rfl

end Renderer

/-- Going through the relabeled layout mirrors going through the layout. -/
theorem Layout.mirrors_run {d : Dialect} (layout : Layout) :
    Renderer.Mirrors m id (layout.run d) ((layout.relabel m).run d) := by
  induction layout with
  | nothing => exact Renderer.mirrors_pure id ()
  | text characters => exact Renderer.mirrors_write characters
  | placeholder bound => exact Renderer.mirrors_bindValue bound
  | identifier name =>
    exact (Renderer.mirrors_quote name).bind fun quoted ↦ Renderer.mirrors_write quoted
  | visit relation =>
    exact (Renderer.mirrors_visit relation).bind fun _ ↦ Renderer.mirrors_pure id ()
  | relationAlias lead relation =>
    exact (Renderer.mirrors_visitQuoted relation).bind fun quoted ↦
      (Renderer.mirrors_write lead).bind fun _ ↦ Renderer.mirrors_write quoted
  | qualifier relation =>
    refine Renderer.mirrors_insideStatement.bind fun inside ↦ ?_
    cases inside with
    | false => exact Renderer.mirrors_pure id ()
    | true =>
      exact (Renderer.mirrors_visitQuoted relation).bind fun quoted ↦
        (Renderer.mirrors_write quoted).bind fun _ ↦ Renderer.mirrors_write "."
  | fail error => exact Renderer.mirrors_throw id error
  | seq first second hfirst hsecond => exact hfirst.bind fun _ ↦ hsecond
  | scope body hbody => exact hbody.deeper
  | frame prologue body front link hprologue hbody hfront hlink =>
    exact hprologue.held.bind fun opening ↦ hbody.held.bind fun closing ↦
      hfront.held.bind fun heading ↦ (Renderer.mirrors_emit opening).bind fun _ ↦
        (Renderer.mirrors_emit heading).bind fun _ ↦ hlink.bind fun _ ↦
          Renderer.mirrors_emit closing

/-- Rendering a relabeled node mirrors rendering the node, if all names are kept. -/
theorem Node.mirrors_renderer {d : Dialect} (hname : ∀ supplied, m.name supplied = supplied)
    (node : Node) : Renderer.Mirrors m id (node.renderer d) ((node.relabel m).renderer d) := by
  unfold Node.renderer
  rw [Node.layout_relabel hname]
  exact Layout.mirrors_run (node.layout d)

/-- Relabeling a piece replaces the values of its query and keeps the text. -/
theorem Piece.toQuery_relabel (piece : Piece) (style : ParamStyle) :
    (piece.relabel m).toQuery style =
      ⟨(piece.toQuery style).sql, (piece.toQuery style).params.map m.value⟩ := by
  have hspell (position : Nat) (later : List Part) :
      Part.spell style position (later.map (Part.relabel m)) = Part.spell style position later := by
    induction later generalizing position with
    | nil => rfl
    | cons part rest ih => cases part <;> simp [Part.relabel, Part.spell, ih]
  have hvalues (later : List Part) :
      Part.values (later.map (Part.relabel m)) = (Part.values later).map m.value := by
    induction later with
    | nil => rfl
    | cons part rest ih => cases part <;> simp [Part.relabel, Part.values, ih]
  simp only [toQuery, values, parts_relabel, hspell, hvalues]

end BoundSql
