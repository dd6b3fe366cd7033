import BoundSql.Proofs.ExactAcceptance
import BoundSql.Proofs.Percent.Layout

/-!
# Going through a layout with single percent signs

Whatever completes where percent signs are doubled completes where they are not, and the same
aliases are handed out on the way (`Layout.Undoubles.exists_run`). What is written differs only
where the operator `%` stands (`Layout.Undoubles.tokens`).
-/

set_option autoImplicit false
set_option relaxedAutoImplicit false

namespace BoundSql

variable {d : Dialect} (name : String)

/-! ### Quoting -/

namespace Renderer

theorem quote_withQmarks {supplied quoted : String} {before after : RenderState}
    (hquote : quote d supplied before = .ok quoted after) (other : RenderState) :
    quote (d.withQmarks name) supplied other = .ok quoted other := by
  obtain ⟨hname, rfl, -⟩ := quote_eq_ok hquote
  exact quote_of_quotable
    (Dialect.nameFault?_eq_none_iff.mp (Dialect.nameFault?_withQmarks name hname)) other

/-- In the same context a relation gets the same alias. -/
theorem visitQuoted_withQmarks {relation : Identity} {quoted : String}
    {before after other : RenderState} (hcontext : other.context = before.context)
    (hvisit : visitQuoted d relation before = .ok quoted after) :
    ∃ met, visitQuoted (d.withQmarks name) relation other = .ok quoted met ∧
      met.context = after.context := by
  obtain ⟨given, middle, hgiven, hquote⟩ := bind_eq_ok hvisit
  obtain ⟨-, -, rfl⟩ := quote_eq_ok hquote
  cases hgiven
  rw [← hcontext] at hquote ⊢
  exact ⟨_, quote_withQmarks name hquote _, rfl⟩

end Renderer

namespace Layout

/-! ### Runs -/

/-- Where the first layout completes, the second one completes from every state with the same
context, and the contexts are the same in the end. -/
theorem Undoubles.exists_run {first second : Layout} (hlayouts : Undoubles first second)
    {before after : RenderState} (hrun : first.run d before = .ok () after)
    (other : RenderState) (hcontext : other.context = before.context) :
    ∃ ended, second.run (d.withQmarks name) other = .ok () ended ∧
      ended.context = after.context := by
  induction hlayouts generalizing before after other with
  | nothing | text | percent | placeholder => cases hrun; exact ⟨_, rfl, hcontext⟩
  | visit relation =>
    cases hrun
    rw [← hcontext]
    exact ⟨_, rfl, rfl⟩
  | identifier supplied =>
    obtain ⟨quoted, middle, hquote, hwrite⟩ := Renderer.bind_eq_ok hrun
    obtain ⟨-, -, rfl⟩ := Renderer.quote_eq_ok hquote
    cases hwrite
    exact ⟨_, Renderer.bind_of_eq_ok (Renderer.quote_withQmarks name hquote other), hcontext⟩
  | relationAlias lead relation =>
    obtain ⟨quoted, middle, hvisit, hwrite⟩ := Renderer.bind_eq_ok hrun
    obtain ⟨met, hmet, hsame⟩ := Renderer.visitQuoted_withQmarks name hcontext hvisit
    cases hwrite
    exact ⟨_, Renderer.bind_of_eq_ok hmet, hsame⟩
  | qualifier relation =>
    have hdepth : other.context.insideStatement = before.context.insideStatement := by
      rw [hcontext]
    cases hinside : before.context.insideStatement with
    | false =>
      rw [run_qualifier_of_outside hinside] at hrun
      cases hrun
      exact ⟨other, run_qualifier_of_outside (hdepth.trans hinside) relation, hcontext⟩
    | true =>
      rw [run_qualifier_of_inside hinside] at hrun
      obtain ⟨quoted, middle, hvisit, hwrite⟩ := Renderer.bind_eq_ok hrun
      obtain ⟨met, hmet, hsame⟩ := Renderer.visitQuoted_withQmarks name hcontext hvisit
      cases hwrite
      rw [run_qualifier_of_inside (hdepth.trans hinside)]
      exact ⟨_, Renderer.bind_of_eq_ok hmet, hsame⟩
  | fail error unrelated => cases hrun
  | seq _ _ ihfirst ihlater =>
    obtain ⟨_, middle, hfirst, hlater⟩ := Renderer.bind_eq_ok hrun
    obtain ⟨reached, hreached, hmiddle⟩ := ihfirst hfirst other hcontext
    obtain ⟨ended, hended, hafter⟩ := ihlater hlater reached hmiddle
    exact ⟨ended, (Renderer.bind_of_eq_ok hreached).trans hended, hafter⟩
  | scope _ ihbody =>
    obtain ⟨middle, hbody, rfl⟩ := Renderer.deeper_eq_ok hrun
    have hdeeper : { other.context with depth := other.context.depth + 1 } =
        { before.context with depth := before.context.depth + 1 } := by
      rw [hcontext]
    obtain ⟨reached, hreached, hmiddle⟩ := ihbody hbody { other with
      context := { other.context with depth := other.context.depth + 1 } } hdeeper
    refine ⟨_, Renderer.deeper_of_eq_ok hreached, ?_⟩
    rw [hmiddle]
  | frame _ _ _ _ ihprologue ihbody ihfront ihlink =>
    obtain ⟨first, second, third, fourth, hfirst, hsecond, hthird, hfourth, rfl⟩ :=
      run_frame_eq_ok hrun
    obtain ⟨opened, hopened, hone⟩ := ihprologue hfirst { context := other.context } hcontext
    obtain ⟨closed, hclosed, htwo⟩ := ihbody hsecond { context := opened.context } hone
    obtain ⟨headed, hheaded, hthree⟩ := ihfront hthird { context := closed.context } htwo
    obtain ⟨linked, hlinked, hfour⟩ := ihlink hfourth
      { headed with output := other.output ++ opened.output ++ headed.output } hthree
    refine ⟨{ linked with output := linked.output ++ closed.output }, ?_, hfour⟩
    rw [run_frame_of_eq_ok hopened hclosed hheaded]
    exact (Renderer.bind_of_eq_ok hlinked).trans rfl

end Layout

/-! ### Tokens -/

/-- The second token is the first one with a single percent sign in place of a doubled one. -/
inductive Token.Undoubles : Token → Token → Prop
  /-- The same token. -/
  | same (token : Token) : Undoubles token token
  /-- The operator `%` between two blanks. -/
  | percent : Undoubles (.text " %% ") (.text " % ")

theorem Token.forall₂_undoubles_refl (tokens : List Token) :
    List.Forall₂ Token.Undoubles tokens tokens :=
  List.forall₂_same.mpr fun token _ ↦ .same token

/-- The tokens of the second layout are those of the first with single percent signs. -/
theorem Layout.Undoubles.tokens {first second : Layout} (hlayouts : Undoubles first second)
    (haccepted : first.Accepted d) (inside : Bool) :
    List.Forall₂ Token.Undoubles (first.read (.tokens d) inside)
      (second.read (.tokens (d.withQmarks name)) inside) := by
  induction hlayouts generalizing inside with
  | percent => exact .cons .percent .nil
  | fail error other => exact haccepted.elim
  | seq _ _ ihfirst ihlater =>
    exact List.rel_append (ihfirst haccepted.1 inside) (ihlater haccepted.2 inside)
  | scope _ ihbody => exact ihbody haccepted true
  | frame _ _ _ _ ihprologue ihbody ihfront ihlink =>
    rw [read_frame_of_writing rfl, read_frame_of_writing rfl]
    obtain ⟨hprologue, hbody, hfront, hlink⟩ := haccepted
    exact List.rel_append (List.rel_append (List.rel_append (ihprologue hprologue inside)
      (ihfront hfront inside)) (ihlink hlink inside)) (ihbody hbody inside)
  | _ => exact Token.forall₂_undoubles_refl _

end BoundSql
