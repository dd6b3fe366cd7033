import BoundSql.Proofs.AppendOnly
import BoundSql.Proofs.ExactAcceptance

/-!
# What a layout yields

Going through a layout only appends, so what a completed run does is told by three things: the
context that it starts from, the piece that it writes, and the context that it leads to.
`Layout.Yields` relates the three. What a layout yields is put together from what its parts yield,
in the order in which they are gone through (`Layout.yields_append_iff`, `Layout.yields_scope_iff`,
`Layout.yields_frame_iff`).
-/

set_option autoImplicit false
set_option relaxedAutoImplicit false

namespace BoundSql

variable {d : Dialect}

/-- The context inside a statement. -/
def Context.inner (context : Context) : Context := { context with depth := context.depth + 1 }

/-- The context around a statement. -/
def Context.outer (context : Context) : Context := { context with depth := context.depth - 1 }

namespace Layout

/-- Going through the layout completes: from one context it leads to the other, and it writes the
piece. -/
def Yields (d : Dialect) (layout : Layout) (before : Context) (piece : Piece) (after : Context) :
    Prop :=
  layout.run d { context := before } = .ok () ⟨after, piece⟩

variable {before after : Context} {piece : Piece}

/-- A layout yields the same piece whatever has been written before. -/
theorem exists_yields_of_run {layout : Layout} {written : Piece} {done : RenderState}
    (hrun : layout.run d ⟨before, written⟩ = .ok () done) :
    ∃ piece, layout.Yields d before piece done.context ∧ done.output = written ++ piece := by
  have houtcome := (appendsOnly_run d layout).outcome_eq before written
  rw [hrun] at houtcome
  cases hapart : layout.run d ⟨before, ∅⟩ with
  | error error failed =>
    rw [hapart] at houtcome
    cases houtcome
  | ok done apart =>
    rw [hapart] at houtcome
    cases houtcome
    exact ⟨apart.output, hapart, rfl⟩

/-- What a layout yields is written behind whatever has been written before. -/
theorem Yields.run_eq {layout : Layout} (hyields : layout.Yields d before piece after)
    (written : Piece) :
    layout.run d ⟨before, written⟩ = .ok () ⟨after, written ++ piece⟩ := by
  have houtcome := (appendsOnly_run d layout).outcome_eq before written
  unfold Yields at hyields
  rw [hyields] at houtcome
  exact houtcome

/-- Whatever a layout yields, it keeps the depth and every alias. -/
theorem Yields.context_extends {layout : Layout} (hyields : layout.Yields d before piece after) :
    before.Extends after := by
  have hextends := (appendsOnly_run d layout).context_extends before
  unfold Yields at hyields
  rw [hyields] at hextends
  exact hextends

theorem yields_nothing (hyields : nothing.Yields d before piece after) :
    piece = ∅ ∧ after = before := by
  cases hyields
  exact ⟨rfl, rfl⟩

theorem yields_text {characters : String}
    (hyields : (text characters).Yields d before piece after) :
    piece = (∅ : Piece).pushText characters ∧ after = before := by
  cases hyields
  exact ⟨rfl, rfl⟩

/-- A requirement that is met writes nothing. -/
theorem yields_require {requirement : Option Refusal}
    (hyields : (require requirement).Yields d before piece after) :
    piece = ∅ ∧ after = before := by
  cases requirement with
  | none => exact yields_nothing hyields
  | some error => cases hyields

/-- One layout after the other yields both pieces. -/
theorem yields_append_iff {first second : Layout} :
    (first ++ second).Yields d before piece after ↔
      ∃ earlier middle later, first.Yields d before earlier middle ∧
        second.Yields d middle later after ∧ piece = earlier ++ later := by
  constructor
  · intro hyields
    obtain ⟨_, ⟨middle, earlier⟩, hfirst, hsecond⟩ := Renderer.bind_eq_ok hyields
    obtain ⟨later, hlater, houtput⟩ := exists_yields_of_run hsecond
    exact ⟨earlier, middle, later, hfirst, hlater, houtput⟩
  · rintro ⟨earlier, middle, later, hfirst, hsecond, rfl⟩
    exact (Renderer.bind_of_eq_ok hfirst).trans (hsecond.run_eq earlier)

/-- A statement yields what its body yields one level deeper. -/
theorem yields_scope_iff {body : Layout} :
    (scope body).Yields d before piece after ↔
      ∃ middle, body.Yields d before.inner piece middle ∧ after = middle.outer := by
  constructor
  · intro hyields
    obtain ⟨middle, hbody, hdone⟩ := Renderer.deeper_eq_ok hyields
    obtain ⟨rfl, rfl⟩ := RenderState.mk.inj hdone
    exact ⟨middle.context, hbody, rfl⟩
  · rintro ⟨middle, hbody, rfl⟩
    exact @Renderer.deeper_of_eq_ok _ (body.run d) () { context := before } ⟨middle, piece⟩ hbody

/-- A frame goes through its prologue, its body, its front and its link, and writes the body
last. -/
theorem yields_frame_iff {prologue body front link : Layout} :
    (frame prologue body front link).Yields d before piece after ↔
      ∃ first second third opening closing heading linked,
        prologue.Yields d before opening first ∧ body.Yields d first closing second ∧
        front.Yields d second heading third ∧ link.Yields d third linked after ∧
        piece = ∅ ++ opening ++ heading ++ linked ++ closing := by
  constructor
  · intro hyields
    obtain ⟨first, second, third, fourth, hprologue, hbody, hfront, hlink, hdone⟩ :=
      run_frame_eq_ok hyields
    obtain ⟨linked, hlinked, houtput⟩ := exists_yields_of_run hlink
    obtain ⟨rfl, rfl⟩ := RenderState.mk.inj hdone
    exact ⟨_, _, _, _, _, _, linked, hprologue, hbody, hfront, hlinked,
      congrArg (· ++ second.output) houtput⟩
  · rintro ⟨first, second, third, opening, closing, heading, linked, hprologue, hbody, hfront,
      hlink, rfl⟩
    unfold Yields at hprologue hbody hfront ⊢
    rw [run_frame_of_eq_ok hprologue hbody hfront]
    exact Renderer.bind_of_eq_ok (hlink.run_eq (∅ ++ opening ++ heading))

end Layout

end BoundSql
