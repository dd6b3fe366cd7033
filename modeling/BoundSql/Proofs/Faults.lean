import BoundSql.Proofs.FailedStatements

/-!
# Which error is reported

A rendering stops at the first fault that it meets. The faults of a layout can be listed without
going through it with a state (`Layout.faults`), and a failing node is refused for the first one of
the list (`Node.render_eq_error_iff`): neither the aliases handed out before nor the text written so
far have a say in it, unless the dialect quotes with a small letter and cannot quote its aliases.
-/

set_option autoImplicit false
set_option relaxedAutoImplicit false

namespace BoundSql

variable {d : Dialect}

theorem Renderer.nameError?_of_quote_eq_error {name : String} {before after : RenderState}
    {error : Refusal} (h : quote d name before = .error error after) :
    d.nameError? name = some error := by
  unfold quote Dialect.quoteName at h
  cases hname : d.nameError? name with
  | none =>
    rw [hname] at h
    cases h
  | some refused =>
    rw [hname] at h
    cases h
    rfl

namespace Layout

/-- The faults of a layout, in the order in which it is gone through. -/
def faults (d : Dialect) : Layout → List Refusal
  | identifier name => (d.nameError? name).toList
  | fail error => [error]
  | seq first second => first.faults d ++ second.faults d
  | scope body => body.faults d
  | frame prologue body front link =>
    prologue.faults d ++ body.faults d ++ front.faults d ++ link.faults d
  | _ => []

/-- A layout is accepted if it has no faults. -/
theorem faults_eq_nil_iff {layout : Layout} : layout.faults d = [] ↔ layout.Accepted d := by
  induction layout with
  | identifier name =>
    rw [faults, Option.toList_eq_nil_iff]
    exact d.nameError?_eq_none_iff name
  | fail error => simp [faults, Accepted]
  | seq first second hfirst hsecond =>
    rw [faults, List.append_eq_nil_iff, hfirst, hsecond]
    rfl
  | scope body hbody => exact hbody
  | frame prologue body front link hprologue hbody hfront hlink =>
    simp only [faults, List.append_eq_nil_iff, hprologue, hbody, hfront, hlink, and_assoc]
    rfl
  | _ => exact ⟨fun _ ↦ trivial, fun _ ↦ rfl⟩

theorem faults_of_run_eq_ok {layout : Layout} {before after : RenderState}
    (hrun : layout.run d before = .ok () after) : layout.faults d = [] :=
  faults_eq_nil_iff.mpr (completes_of_run hrun).accepted

theorem not_accepted_of_run_eq_error (hquote : d.quote.isLower = false) {layout : Layout}
    {before after : RenderState} {error : Refusal}
    (hrun : layout.run d before = .error error after) : ¬ layout.Accepted d := by
  intro haccepted
  obtain ⟨_, hcomplete⟩ := exists_run_eq_ok haccepted (.inl hquote) before
  rw [hcomplete] at hrun
  cases hrun

/-- A run that fails stops at the first fault. -/
theorem head?_faults_of_run_eq_error (hquote : d.quote.isLower = false) {layout : Layout}
    {before after : RenderState} {error : Refusal}
    (hrun : layout.run d before = .error error after) :
    (layout.faults d).head? = some error := by
  -- What a run has completed before it fails has no faults.
  induction layout generalizing before after with
  | nothing => cases hrun
  | text characters => cases hrun
  | placeholder bound => cases hrun
  | visit relation => cases hrun
  | identifier name =>
    rcases Renderer.bind_eq_error hrun with hrun | ⟨_, _, _, hwrite⟩
    · rw [faults, Renderer.nameError?_of_quote_eq_error hrun]
      rfl
    · cases hwrite
  | relationAlias lead relation => exact (not_accepted_of_run_eq_error hquote hrun trivial).elim
  | qualifier relation => exact (not_accepted_of_run_eq_error hquote hrun trivial).elim
  | fail refused =>
    cases hrun
    rfl
  | seq first second hfirst hsecond =>
    rcases Renderer.bind_eq_error hrun with hrun | ⟨_, middle, hcomplete, hrun⟩
    · rw [faults, List.head?_append, hfirst hrun]
      rfl
    · rw [faults, faults_of_run_eq_ok hcomplete]
      exact hsecond hrun
  | scope body hbody =>
    obtain ⟨middle, hbodyRun, -⟩ := Renderer.deeper_eq_error hrun
    exact hbody hbodyRun
  | frame prologue body front link hprologue hbody hfront hlink =>
    cases frameFails_of_run hrun with
    | inPrologue _ hfailed =>
      simp only [faults, List.head?_append, hprologue hfailed]
      rfl
    | inBody _ hfirst hfailed =>
      simp only [faults, List.head?_append, faults_of_run_eq_ok hfirst, hbody hfailed]
      rfl
    | inFront _ hfirst hsecond hfailed =>
      simp only [faults, List.head?_append, faults_of_run_eq_ok hfirst,
        faults_of_run_eq_ok hsecond, hfront hfailed]
      rfl
    | inLink hfirst hsecond hthird hfailed =>
      simp only [faults, List.head?_append, faults_of_run_eq_ok hfirst,
        faults_of_run_eq_ok hsecond, faults_of_run_eq_ok hthird, hlink hfailed]
      rfl

end Layout

namespace Node

/-- A node is refused for its first fault. -/
theorem render_eq_error_iff (hquote : d.quote.isLower = false) {node : Node} {error : Refusal} :
    node.render d = .error error ↔ ((node.layout d).faults d).head? = some error := by
  unfold render
  cases hrun : (node.renderer d).run {} with
  | ok result after =>
    have hnone : (node.layout d).faults d = [] := Layout.faults_of_run_eq_ok hrun
    simp [hnone]
  | error refused after =>
    have hfirst : ((node.layout d).faults d).head? = some refused :=
      Layout.head?_faults_of_run_eq_error hquote hrun
    simp [hfirst]

/-- A node that is not well formed is refused for its first fault. -/
theorem exists_render_eq_error (hquote : d.quote.isLower = false) {node : Node}
    (hbroken : ¬ node.WellFormed d) :
    ∃ error, node.render d = .error error ∧ ((node.layout d).faults d).head? = some error := by
  have hfaults : (node.layout d).faults d ≠ [] := fun hnil ↦
    hbroken ((accepted_layout_iff node).mp (Layout.faults_eq_nil_iff.mp hnil))
  obtain ⟨error, rest, hlist⟩ := List.exists_cons_of_ne_nil hfaults
  have hfirst : ((node.layout d).faults d).head? = some error := by
    rw [hlist]
    rfl
  exact ⟨error, (render_eq_error_iff hquote).mpr hfirst, hfirst⟩

end Node

end BoundSql
