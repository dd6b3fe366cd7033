import BoundSql.Proofs.Acceptance
import BoundSql.Proofs.PieceAssembly
import BoundSql.Proofs.Reading.Basic
import BoundSql.Proofs.RosterVisits

/-!
# What a completed run has done

`Layout.run` goes through a layout once, with a state that it changes as it goes. When it completes,
the state after it is known without going step by step (`Layout.completes_of_run`): the relations
that the layout meets have been visited in their order, and the tokens of the layout have been
written in theirs, with the aliases that the roster holds in the end. An alias is written when not
all relations have been met, but later visits do not change it.
-/

set_option autoImplicit false
set_option relaxedAutoImplicit false

namespace BoundSql

/-! ### Contexts -/

/-- The context after visits to more relations. -/
def Context.meet (context : Context) (relations : List Identity) : Context :=
  { context with roster := context.roster.visitAll relations }

/-- Relations that are met in two turns are met in one. -/
theorem Context.meet_meet (context : Context) (earlier later : List Identity) :
    (context.meet earlier).meet later = context.meet (earlier ++ later) := by
  simp only [meet, Roster.visitAll_append]

/-- Meeting relations does not enter a statement or leave one. -/
@[simp]
theorem Context.insideStatement_meet (context : Context) (relations : List Identity) :
    (context.meet relations).insideStatement = context.insideStatement := rfl

namespace Renderer

variable {α β : Type}

/-! ### Completed actions -/

/-- Two actions in a row succeed only if each does. -/
theorem bind_eq_ok {action : Renderer α} {next : α → Renderer β} {before after : RenderState}
    {result : β} (h : (action >>= next) before = .ok result after) :
    ∃ value middle, action before = .ok value middle ∧ next value middle = .ok result after := by
  simp only [bind, EStateM.bind] at h
  split at h
  · rename_i value middle haction
    exact ⟨value, middle, haction, h⟩
  · simp at h

/-- Behind an action that succeeds the next one decides. -/
theorem bind_of_eq_ok {action : Renderer α} {next : α → Renderer β} {before middle : RenderState}
    {value : α} (haction : action before = .ok value middle) :
    (action >>= next) before = next value middle := by
  simp only [bind, EStateM.bind, haction]

theorem insideStatement_eq_ok (before : RenderState) :
    insideStatement before = .ok before.context.insideStatement before := rfl

/-- A name that is quoted has no fault, and the state stays as it is. -/
theorem quote_eq_ok {d : Dialect} {name quoted : String} {before after : RenderState}
    (h : quote d name before = .ok quoted after) :
    d.nameFault? name = none ∧ quoted = d.enclose name ∧ after = before := by
  unfold quote at h
  cases hquoted : d.quoteName name with
  | error error =>
    rw [hquoted] at h
    cases h
  | ok text =>
    rw [hquoted] at h
    cases h
    exact ⟨((d.quoteName_eq_ok_iff name _).mp hquoted).1,
      ((d.quoteName_eq_ok_iff name _).mp hquoted).2, rfl⟩

/-- An alias that is written is that of the relation, which is met. -/
theorem visitQuoted_eq_ok {d : Dialect} {relation : Identity} {quoted : String}
    {before after : RenderState} (h : visitQuoted d relation before = .ok quoted after) :
    quoted = d.enclose (before.context.roster.aliasOf relation) ∧
      after = { before with context := before.context.meet [relation] } := by
  obtain ⟨given, middle, hvisit, hquote⟩ := bind_eq_ok h
  cases hvisit
  obtain ⟨-, hquoted, hafter⟩ := quote_eq_ok hquote
  exact ⟨hquoted, hafter⟩

/-- An action succeeds behind a deeper level only if it succeeds there, and the level is taken
off. -/
theorem deeper_eq_ok {action : Renderer α} {result : α} {before after : RenderState}
    (h : deeper action before = .ok result after) :
    ∃ middle, action { before with
        context := { before.context with depth := before.context.depth + 1 } } =
          .ok result middle ∧
      after = { middle with
        context := { middle.context with depth := middle.context.depth - 1 } } := by
  unfold deeper at h
  split at h
  · rename_i value middle haction
    obtain ⟨rfl, rfl⟩ := EStateM.Result.ok.inj h
    exact ⟨middle, haction, rfl⟩
  · simp at h

/-- An action that succeeds one level deeper does so from outside, and the level is taken off. -/
theorem deeper_of_eq_ok {action : Renderer α} {result : α} {before middle : RenderState}
    (haction : action { before with
      context := { before.context with depth := before.context.depth + 1 } } = .ok result middle) :
    deeper action before = .ok result { middle with
      context := { middle.context with depth := middle.context.depth - 1 } } := by
  unfold deeper
  rw [haction]

/-- What is held is what the action writes from an empty output, and the output stays as it was. -/
theorem held_eq_ok {action : Renderer Unit} {piece : Piece} {before after : RenderState}
    (h : held action before = .ok piece after) :
    ∃ middle, action { before with output := ∅ } = .ok () middle ∧ piece = middle.output ∧
      after = { middle with output := before.output } := by
  unfold held at h
  split at h
  · rename_i middle haction
    obtain ⟨rfl, rfl⟩ := EStateM.Result.ok.inj h
    exact ⟨middle, haction, rfl, rfl⟩
  · simp at h

end Renderer

/-! ### Completed runs -/

/-- A text is pushed as the tokens that it consists of. -/
theorem Piece.pushText_eq_pushParts (piece : Piece) (d : Dialect) (aliasOf : Identity → String)
    (characters : String) : piece.pushText characters =
      piece.pushParts ((Token.ofText characters).map (Token.part d aliasOf)) := by
  unfold Token.ofText
  split
  · rename_i hempty
    simp [hempty, pushText, pushParts]
  · rfl

namespace Layout

variable {d : Dialect}

/-- What a completed run of a layout has done. The aliases are those that the roster holds in the
end, and also those that it holds after any later visits. -/
structure Completes (d : Dialect) (layout : Layout) (before after : RenderState) : Prop where
  accepted : layout.Accepted d
  context_eq : after.context =
    before.context.meet (layout.read (.meetings d) before.context.insideStatement)
  output_eq : ∀ later : List Identity, after.output = before.output.pushParts
    ((layout.read (.tokens d) before.context.insideStatement).map
      (Token.part d (after.context.meet later).roster.aliasOf))

/-- At the end of a run, what it has written shows the aliases that the roster then holds. -/
theorem Completes.output_at_end {layout : Layout} {before after : RenderState}
    (hcompletes : layout.Completes d before after) :
    after.output = before.output.pushParts
      ((layout.read (.tokens d) before.context.insideStatement).map
        (Token.part d after.context.roster.aliasOf)) :=
  hcompletes.output_eq []

/-- The alias that a visit yields is the one that the roster holds ever after. -/
theorem aliasOf_meet_meet (context : Context) (relation : Identity) (later : List Identity) :
    ((context.meet [relation]).meet later).roster.aliasOf relation =
      context.roster.aliasOf relation := by
  change ((context.roster.visit relation).visitAll later).aliasOf relation = _
  rw [Roster.aliasOf_visitAll_of_mem later (Roster.mem_members_visit context.roster relation),
    Roster.aliasOf_visit_self]

/-- Outside of all statements a qualifier writes nothing and meets nothing. -/
theorem run_qualifier_of_outside {before : RenderState}
    (houtside : before.context.insideStatement = false) (relation : Identity) :
    run d (qualifier relation) before = .ok () before := by
  rw [run, Renderer.bind_of_eq_ok (Renderer.insideStatement_eq_ok before), houtside]
  rfl

/-- Inside a statement a qualifier writes the quoted alias and a dot. -/
theorem run_qualifier_of_inside {before : RenderState}
    (hinside : before.context.insideStatement = true) (relation : Identity) :
    run d (qualifier relation) before =
      (do
        let quoted ← Renderer.visitQuoted d relation
        Renderer.write quoted
        Renderer.write ".") before := by
  rw [run, Renderer.bind_of_eq_ok (Renderer.insideStatement_eq_ok before), hinside]
  rfl

/-- An alias is written behind its text, and its relation is met. -/
theorem completes_relationAlias {lead : String} {relation : Identity} {before after : RenderState}
    (hrun : run d (relationAlias lead relation) before = .ok () after) :
    Completes d (relationAlias lead relation) before after := by
  obtain ⟨quoted, middle, hvisit, hwrite⟩ := Renderer.bind_eq_ok hrun
  obtain ⟨rfl, rfl⟩ := Renderer.visitQuoted_eq_ok hvisit
  cases hwrite
  refine ⟨trivial, rfl, fun later ↦ ?_⟩
  simp only [read, Reading.tokens, List.map_append, List.map_cons, List.map_nil, Token.part,
    aliasOf_meet_meet, Piece.pushParts_append, ← Piece.pushText_eq_pushParts]
  rfl

/-- An alias in front of a column is written inside a statement only, and its relation is met
there. -/
theorem completes_qualifier {relation : Identity} {before after : RenderState}
    (hrun : run d (qualifier relation) before = .ok () after) :
    Completes d (qualifier relation) before after := by
  cases hinside : before.context.insideStatement with
  | false =>
    rw [run_qualifier_of_outside hinside] at hrun
    cases hrun
    refine ⟨trivial, ?_, fun later ↦ ?_⟩
    · rw [hinside]; rfl
    · rw [hinside]; rfl
  | true =>
    rw [run_qualifier_of_inside hinside] at hrun
    obtain ⟨quoted, visited, hvisit, hwrite⟩ := Renderer.bind_eq_ok hrun
    obtain ⟨rfl, rfl⟩ := Renderer.visitQuoted_eq_ok hvisit
    cases hwrite
    refine ⟨trivial, by rw [hinside]; rfl, fun later ↦ ?_⟩
    simp only [read, hinside, Reading.tokens, if_true, List.map_append, List.map_cons,
      List.map_nil, Token.part, aliasOf_meet_meet, Piece.pushParts_append,
      ← Piece.pushText_eq_pushParts]
    rfl

/-- A sequence is complete if its parts are, one after the other. -/
theorem Completes.seq {first second : Layout} {before middle after : RenderState}
    (hfirst : first.Completes d before middle) (hsecond : second.Completes d middle after) :
    (first.seq second).Completes d before after := by
  have hmiddle := hfirst.context_eq
  have hafter := hsecond.context_eq
  rw [hmiddle, Context.meet_meet, Context.insideStatement_meet] at hafter
  refine ⟨⟨hfirst.accepted, hsecond.accepted⟩, hafter, fun later ↦ ?_⟩
  have hlater : after.context.meet later = middle.context.meet
      (second.read (.meetings d) before.context.insideStatement ++ later) := by
    rw [hafter, hmiddle, Context.meet_meet, Context.meet_meet, List.append_assoc]
  rw [hsecond.output_eq later, hmiddle, Context.insideStatement_meet, hlater,
    hfirst.output_eq, read, List.map_append, Piece.pushParts_append]

/-- A statement is complete if its layout is, one level deeper. -/
theorem Completes.scope {body : Layout} {before middle : RenderState}
    (hbody : body.Completes d
      { before with context := { before.context with depth := before.context.depth + 1 } } middle) :
    (Layout.scope body).Completes d before { middle with
      context := { middle.context with depth := middle.context.depth - 1 } } := by
  have hinside : Context.insideStatement
      { before.context with depth := before.context.depth + 1 } = true := by
    simp [Context.insideStatement]
  have hcontext := hbody.context_eq
  have houtput := hbody.output_eq
  simp only [hinside] at hcontext houtput
  refine ⟨hbody.accepted, ?_, houtput⟩
  simp only [hcontext, read, Context.meet]
  rfl

/-- What has been written apart can be written wherever it is emitted later. -/
theorem Completes.append_output {layout : Layout} {context : Context} {after : RenderState}
    (hlayout : layout.Completes d { context := context } after) (piece : Piece)
    (later : List Identity) :
    piece ++ after.output = piece.pushParts
      ((layout.read (.tokens d) context.insideStatement).map
        (Token.part d (after.context.meet later).roster.aliasOf)) := by
  rw [hlayout.output_eq later, Piece.append_pushParts_empty]

/-- The four parts of a frame that succeeds are gone through in turn, three of them into outputs of
their own. -/
theorem run_frame_eq_ok {prologue body front link : Layout} {before after : RenderState}
    (hrun : run d (frame prologue body front link) before = .ok () after) :
    ∃ first second third fourth : RenderState,
      run d prologue { context := before.context } = .ok () first ∧
      run d body { context := first.context } = .ok () second ∧
      run d front { context := second.context } = .ok () third ∧
      run d link { third with output := before.output ++ first.output ++ third.output } =
        .ok () fourth ∧
      after = { fourth with output := fourth.output ++ second.output } := by
  obtain ⟨opening, _, hopening, hrun⟩ := Renderer.bind_eq_ok hrun
  obtain ⟨first, hfirst, rfl, rfl⟩ := Renderer.held_eq_ok hopening
  obtain ⟨closing, _, hclosing, hrun⟩ := Renderer.bind_eq_ok hrun
  obtain ⟨second, hsecond, rfl, rfl⟩ := Renderer.held_eq_ok hclosing
  obtain ⟨heading, _, hheading, hrun⟩ := Renderer.bind_eq_ok hrun
  obtain ⟨third, hthird, rfl, rfl⟩ := Renderer.held_eq_ok hheading
  obtain ⟨_, _, hemit, hrun⟩ := Renderer.bind_eq_ok hrun
  cases hemit
  obtain ⟨_, _, hemit, hrun⟩ := Renderer.bind_eq_ok hrun
  cases hemit
  obtain ⟨_, fourth, hfourth, hemit⟩ := Renderer.bind_eq_ok hrun
  cases hemit
  exact ⟨first, second, third, fourth, hfirst, hsecond, hthird, hfourth, rfl⟩

/-- A frame is complete if its four parts are, though it meets its body before it writes its
front. -/
theorem Completes.frame {prologue body front link : Layout}
    {before first second third fourth : RenderState}
    (hprologue : prologue.Completes d { context := before.context } first)
    (hbody : body.Completes d { context := first.context } second)
    (hfront : front.Completes d { context := second.context } third)
    (hlink : link.Completes d
      { third with output := before.output ++ first.output ++ third.output } fourth) :
    (Layout.frame prologue body front link).Completes d before
      { fourth with output := fourth.output ++ second.output } := by
  -- All four parts are met inside the same statement.
  have hfirst := hprologue.context_eq
  have hinside₁ : first.context.insideStatement = before.context.insideStatement := by
    rw [hfirst, Context.insideStatement_meet]
  have hsecond := hbody.context_eq
  rw [hinside₁] at hsecond
  have hinside₂ : second.context.insideStatement = before.context.insideStatement := by
    rw [hsecond, Context.insideStatement_meet, hinside₁]
  have hthird := hfront.context_eq
  rw [hinside₂] at hthird
  have hinside₃ : third.context.insideStatement = before.context.insideStatement := by
    rw [hthird, Context.insideStatement_meet, hinside₂]
  have hfourth := hlink.context_eq
  rw [hinside₃] at hfourth
  refine ⟨⟨hprologue.accepted, hbody.accepted, hfront.accepted, hlink.accepted⟩, ?_,
    fun later ↦ ?_⟩
  · change fourth.context = _
    rw [hfourth, hthird, hsecond, hfirst, Context.meet_meet, Context.meet_meet, Context.meet_meet,
      read_frame_of_meeting rfl, List.append_assoc, List.append_assoc]
  · -- Each part is written with the aliases that are known when all parts have been met.
    have hopened := hprologue.append_output before.output
      (body.read (.meetings d) before.context.insideStatement ++
        front.read (.meetings d) before.context.insideStatement ++
          link.read (.meetings d) before.context.insideStatement ++ later)
    rw [← Context.meet_meet, ← Context.meet_meet, ← Context.meet_meet, ← hsecond, ← hthird,
      ← hfourth] at hopened
    have hclosed := hbody.append_output fourth.output
      (front.read (.meetings d) before.context.insideStatement ++
        link.read (.meetings d) before.context.insideStatement ++ later)
    rw [hinside₁, ← Context.meet_meet, ← Context.meet_meet, ← hthird, ← hfourth] at hclosed
    have hheaded := hfront.append_output (before.output ++ first.output)
      (link.read (.meetings d) before.context.insideStatement ++ later)
    rw [hinside₂, ← Context.meet_meet, ← hfourth] at hheaded
    have hlinked := hlink.output_eq later
    rw [hinside₃] at hlinked
    change fourth.output ++ second.output = _
    rw [hclosed, hlinked, hheaded, hopened, ← Piece.pushParts_append, ← Piece.pushParts_append,
      ← Piece.pushParts_append, ← List.map_append, ← List.map_append, ← List.map_append,
      read_frame_of_writing rfl, List.append_assoc, List.append_assoc]

/-- The state after a completed run, from the meetings and the tokens of the layout. -/
theorem completes_of_run {layout : Layout} {before after : RenderState}
    (hrun : layout.run d before = .ok () after) : layout.Completes d before after := by
  induction layout generalizing before after with
  | nothing => cases hrun; exact ⟨trivial, rfl, fun _ ↦ rfl⟩
  | text characters =>
    cases hrun
    exact ⟨trivial, rfl, fun _ ↦ Piece.pushText_eq_pushParts _ _ _ _⟩
  | placeholder bound => cases hrun; exact ⟨trivial, rfl, fun _ ↦ rfl⟩
  | identifier name =>
    obtain ⟨quoted, middle, hquote, hwrite⟩ := Renderer.bind_eq_ok hrun
    obtain ⟨hname, rfl, rfl⟩ := Renderer.quote_eq_ok hquote
    cases hwrite
    exact ⟨hname, rfl, fun _ ↦ rfl⟩
  | visit relation => cases hrun; exact ⟨trivial, rfl, fun _ ↦ rfl⟩
  | relationAlias lead relation => exact completes_relationAlias hrun
  | qualifier relation => exact completes_qualifier hrun
  | fail error => cases hrun
  | seq first second hfirst hsecond =>
    obtain ⟨_, middle, hrun₁, hrun₂⟩ := Renderer.bind_eq_ok hrun
    exact (hfirst hrun₁).seq (hsecond hrun₂)
  | scope body hbody =>
    obtain ⟨middle, hmiddle, rfl⟩ := Renderer.deeper_eq_ok hrun
    exact (hbody hmiddle).scope
  | frame prologue body front link hprologue hbody hfront hlink =>
    obtain ⟨first, second, third, fourth, hfirst, hsecond, hthird, hfourth, rfl⟩ :=
      run_frame_eq_ok hrun
    exact (hprologue hfirst).frame (hbody hsecond) (hfront hthird) (hlink hfourth)

end Layout

end BoundSql
