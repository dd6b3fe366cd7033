import BoundSql.Proofs.TwoPassRendering
import BoundSql.Proofs.WellFormed.Layout

/-!
# What is rendered and what is refused

A renderer hands out aliases, goes through the clauses of a statement in an order of its own, and
meets errors on its way. None of this decides whether it completes: from every state it completes
exactly with the well-formed nodes (`Node.exists_run_eq_ok_iff_wellFormed`). The dialect must be
able to quote its own aliases, which are words of small letters. A layout in which no relation is
met needs no alias, and completes under every dialect that accepts it
(`Layout.exists_run_eq_ok`).
-/

set_option autoImplicit false
set_option relaxedAutoImplicit false

namespace BoundSql

variable {d : Dialect}

/-! ### Aliases are names -/

/-- An alias can be quoted unless the quote is a small letter. -/
theorem Dialect.quotable_aliasWord (hquote : d.quote.isLower = false) (index : Nat) :
    d.Quotable (aliasWord index) := by
  have hother : ∀ c : Char, c.isLower = false → c ∉ (aliasWord index).toList := by
    intro c hc hmem
    rw [isLower_of_mem_aliasWord hmem] at hc
    cases hc
  exact ⟨aliasWord_ne_empty index, hother _ hquote, hother _ (by decide),
    fun _ ↦ hother _ (by decide)⟩

/-! ### Accepted layouts complete -/

namespace Renderer

/-- A name that can be quoted is enclosed in quotes, and the state stays as it is. -/
theorem quote_of_quotable {name : String} (hname : d.Quotable name) (before : RenderState) :
    quote d name before = .ok (d.enclose name) before := by
  have hquoted : d.quoteName name = .ok (d.enclose name) :=
    (d.quoteName_eq_ok_iff name _).mpr ⟨Dialect.nameFault?_eq_none_iff.mpr hname, rfl⟩
  unfold quote
  rw [hquoted]
  rfl

/-- Where the quote is no letter of an alias, every alias can be written. -/
theorem exists_visitQuoted_eq_ok (hquote : d.quote.isLower = false) (relation : Identity)
    (before : RenderState) : ∃ quoted after, visitQuoted d relation before = .ok quoted after :=
  ⟨_, _, quote_of_quotable (Dialect.quotable_aliasWord hquote _) _⟩

end Renderer

namespace Layout

/-- The dialect can quote every alias that the layout needs: aliases have small letters only, and a
layout that meets no relation needs none. -/
def AliasesQuotable (d : Dialect) (layout : Layout) : Prop :=
  d.quote.isLower = false ∨ layout.read (.meetings d) true = []

/-- What lets the aliases of a sequence be quoted lets those of its parts be quoted. -/
theorem AliasesQuotable.seq {first second : Layout} (h : (first.seq second).AliasesQuotable d) :
    first.AliasesQuotable d ∧ second.AliasesQuotable d := by
  unfold AliasesQuotable at h ⊢
  simp only [read, List.append_eq_nil_iff] at h
  tauto

/-- What lets the aliases of a frame be quoted lets those of its four parts be quoted. -/
theorem AliasesQuotable.frame {prologue body front link : Layout}
    (h : (Layout.frame prologue body front link).AliasesQuotable d) :
    prologue.AliasesQuotable d ∧ body.AliasesQuotable d ∧ front.AliasesQuotable d ∧
      link.AliasesQuotable d := by
  unfold AliasesQuotable at h ⊢
  rw [read_frame_of_meeting rfl] at h
  simp only [List.append_eq_nil_iff] at h
  tauto

/-- What a frame does once its parts are complete. -/
theorem run_frame_of_eq_ok {prologue body front link : Layout}
    {before first second third : RenderState}
    (hfirst : run d prologue { context := before.context } = .ok () first)
    (hsecond : run d body { context := first.context } = .ok () second)
    (hthird : run d front { context := second.context } = .ok () third) :
    run d (frame prologue body front link) before =
      (run d link >>= fun _ ↦ Renderer.emit second.output)
        { third with output := before.output ++ first.output ++ third.output } := by
  have hheld {layout : Layout} {state after : RenderState}
      (hlayout : run d layout { context := state.context } = .ok () after) :
      Renderer.held (run d layout) state =
        .ok after.output { after with output := state.output } := by
    unfold Renderer.held
    rw [hlayout]
  have hopening := @hheld prologue before first hfirst
  have hclosing := @hheld body { first with output := before.output } second hsecond
  have hheading := @hheld front { second with output := before.output } third hthird
  rw [run, Renderer.bind_of_eq_ok hopening, Renderer.bind_of_eq_ok hclosing,
    Renderer.bind_of_eq_ok hheading]
  rfl

/-- From every state, a renderer completes a layout that the dialect accepts. -/
theorem exists_run_eq_ok {layout : Layout} (haccepted : layout.Accepted d)
    (haliases : layout.AliasesQuotable d) (before : RenderState) :
    ∃ after, layout.run d before = .ok () after := by
  induction layout generalizing before with
  | nothing => exact ⟨_, rfl⟩
  | text characters => exact ⟨_, rfl⟩
  | placeholder bound => exact ⟨_, rfl⟩
  | visit relation => exact ⟨_, rfl⟩
  | fail error => exact haccepted.elim
  | identifier name =>
    have hname := Dialect.nameFault?_eq_none_iff.mp haccepted
    exact ⟨_, Renderer.bind_of_eq_ok (Renderer.quote_of_quotable hname before)⟩
  | relationAlias lead relation =>
    rcases haliases with hquote | hnone
    · obtain ⟨quoted, after, hquoted⟩ := Renderer.exists_visitQuoted_eq_ok hquote relation before
      exact ⟨_, Renderer.bind_of_eq_ok hquoted⟩
    · cases hnone
  | qualifier relation =>
    rcases haliases with hquote | hnone
    · cases hinside : before.context.insideStatement with
      | false => exact ⟨before, run_qualifier_of_outside hinside relation⟩
      | true =>
        obtain ⟨quoted, after, hquoted⟩ :=
          Renderer.exists_visitQuoted_eq_ok hquote relation before
        rw [run_qualifier_of_inside hinside, Renderer.bind_of_eq_ok hquoted]
        exact ⟨_, rfl⟩
    · cases hnone
  | seq first second hfirst hsecond =>
    obtain ⟨middle, hmiddle⟩ := hfirst haccepted.1 haliases.seq.1 before
    obtain ⟨after, hafter⟩ := hsecond haccepted.2 haliases.seq.2 middle
    exact ⟨after, (Renderer.bind_of_eq_ok hmiddle).trans hafter⟩
  | scope body hbody =>
    obtain ⟨after, hafter⟩ := hbody haccepted haliases
      { before with context := { before.context with depth := before.context.depth + 1 } }
    exact ⟨_, Renderer.deeper_of_eq_ok hafter⟩
  | frame prologue body front link hprologue hbody hfront hlink =>
    obtain ⟨hprologue', hbody', hfront', hlink'⟩ := haliases.frame
    obtain ⟨first, hfirst⟩ := hprologue haccepted.1 hprologue' { context := before.context }
    obtain ⟨second, hsecond⟩ := hbody haccepted.2.1 hbody' { context := first.context }
    obtain ⟨third, hthird⟩ := hfront haccepted.2.2.1 hfront' { context := second.context }
    obtain ⟨fourth, hfourth⟩ := hlink haccepted.2.2.2 hlink'
      { third with output := before.output ++ first.output ++ third.output }
    simp only [run_frame_of_eq_ok hfirst hsecond hthird, Renderer.bind_of_eq_ok hfourth]
    exact ⟨_, rfl⟩

end Layout

/-! ### Well-formed nodes -/

/-- From every state, whatever aliases it holds and wherever it stands, a renderer completes a node
exactly if the node is well formed. -/
theorem Node.exists_run_eq_ok_iff_wellFormed (hquote : d.quote.isLower = false) (node : Node)
    (before : RenderState) :
    (∃ after, (node.renderer d).run before = .ok () after) ↔ node.WellFormed d := by
  rw [← node.accepted_layout_iff]
  constructor
  · rintro ⟨after, hrun⟩
    exact (Layout.completes_of_run hrun).accepted
  · intro haccepted
    exact Layout.exists_run_eq_ok haccepted (.inl hquote) before

/-- The UPDATE of prices is well formed, so it is completed inside of two other statements too,
with other aliases handed out before. With a name that closes its own quotes it is not. -/
theorem wellFormed_repricing :
    Dialect.postgres.quote.isLower = false ∧
      (repricing "goods" "price").WellFormed .postgres ∧
      (∃ after, ((repricing "goods" "price").renderer .postgres).run
        { context := { roster := Roster.empty.visitAll [⟨7⟩, ⟨1⟩], depth := 2 } } =
          .ok () after) ∧
      ¬ (repricing "goo\"ds" "price").WellFormed .postgres := by
  have hquote : Dialect.postgres.quote.isLower = false := by decide
  have hformed : (repricing "goods" "price").WellFormed .postgres := by
    obtain ⟨after, hrun, -⟩ := Node.run_of_render render_repricing
    exact (Node.exists_run_eq_ok_iff_wellFormed hquote _ {}).mp ⟨after, hrun⟩
  refine ⟨hquote, hformed, (Node.exists_run_eq_ok_iff_wellFormed hquote _ _).mpr hformed, ?_⟩
  intro hbroken
  obtain ⟨after, hrun⟩ := (Node.exists_run_eq_ok_iff_wellFormed hquote _ {}).mpr hbroken
  have hrefused : (repricing "goo\"ds" "price").render .postgres =
      .error (.badName "goo\"ds" .containsQuote) := by decide +kernel
  unfold Node.render at hrefused
  rw [hrun] at hrefused
  cases hrefused

end BoundSql
