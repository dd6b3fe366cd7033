import BoundSql.Proofs.Acceptance
import BoundSql.Proofs.Composition.Layout
import BoundSql.Proofs.Reading.Basic

/-!
# Layouts of plain text

Every text in the layout of a tree is one that the dialect may write outside of quotes
(`Node.plain_layout`). Function names and type names come from the tree, but only after they have
been checked, so this holds as far as the layout is accepted. The tokens of an accepted layout are
all written as they should be (`Layout.Plain.written`).
-/

set_option autoImplicit false
set_option relaxedAutoImplicit false

namespace BoundSql

/-! ### Layouts -/

namespace Layout

/-- As far as the layout is accepted, all of its texts are written outside of quotes. -/
def Plain (d : Dialect) : Layout → Prop
  | text characters => d.Writes characters
  | relationAlias lead _ => d.Writes lead
  | seq first second => first.Plain d ∧ (first.Accepted d → second.Plain d)
  | scope body => body.Plain d
  | frame prologue body front link =>
    prologue.Plain d ∧ body.Plain d ∧ front.Plain d ∧ link.Plain d
  | _ => True

variable {d e : Dialect}

theorem plain_require (error : Option Refusal) : (require error).Plain d := by
  cases error <;> trivial

/-- A function name is written only if it has been allowed, and then it is plain. -/
theorem plain_function (word : String) : (BareWord.function.layout word).Plain d := by
  refine ⟨plain_require _, fun hword ↦ ?_⟩
  have hallows : BareWord.function.allows word = true := by
    simpa [BareWord.error?] using hword
  exact .inl (Text.isPlainText_of_isFunctionName hallows)

/-- A type name is written behind its operand only if it has been allowed in front of it. -/
theorem plain_cast {operand : Layout} (hoperand : operand.Plain d) (typeName : String) :
    (require (BareWord.type.error? typeName) ++ text "CAST(" ++ operand ++
      text (" AS " ++ typeName ++ ")")).Plain d := by
  have hopen : (text "CAST(").Plain d := .inl (by decide)
  refine ⟨⟨⟨plain_require _, fun _ ↦ hopen⟩, fun _ ↦ hoperand⟩, fun haccepted ↦ ?_⟩
  exact Dialect.writes_typeSuffix ((accepted_require _).mp haccepted.1.1)

theorem Composed.plain {before after : Nat} {first second : Layout}
    (hlayouts : Composed d e before after first second) : first.Plain d := by
  induction hlayouts with
  | text hsound => exact .inl hsound.plain
  | operator op => exact Dialect.writes_operator op
  | relationAlias hlead relation => exact .inl hlead.plain
  | function word => exact plain_function word
  | cast _ typeName ihoperand => exact plain_cast ihoperand typeName
  | seq _ _ ihfirst ihlater => exact ⟨ihfirst, fun _ ↦ ihlater⟩
  | scope _ ihbody => exact ihbody
  | frame _ _ _ _ ihprologue ihbody ihfront ihlink =>
    exact ⟨ihprologue, ihbody, ihfront, ihlink⟩
  | _ => trivial

end Layout

variable {d : Dialect}

/-- The layout of a node is plain as far as it is accepted. -/
theorem Node.plain_layout (node : Node) : (node.layout d).Plain d :=
  (node.composed_layout (.refl d)).plain

/-! ### Tokens -/

/-- The text of the token may stand outside of quotes, or its name between them. -/
def Token.Written (d : Dialect) : Token → Prop
  | .text characters => d.Writes characters
  | .name supplied => d.nameFault? supplied = none
  | _ => True

theorem Token.written_of_mem_ofText {characters : String} (hwrites : d.Writes characters) :
    ∀ token ∈ Token.ofText characters, token.Written d := by
  unfold Token.ofText
  split
  · simp
  · exact List.forall_mem_singleton.mpr hwrites

/-- The tokens of a plain layout that is accepted are written. -/
theorem Layout.Plain.written {layout : Layout} (hplain : layout.Plain d)
    (haccepted : layout.Accepted d) (inside : Bool) :
    ∀ token ∈ layout.read (.tokens d) inside, token.Written d := by
  induction layout generalizing inside with
  | text characters => exact Token.written_of_mem_ofText hplain
  | identifier name => exact List.forall_mem_singleton.mpr haccepted
  | relationAlias lead relation =>
    simp only [Layout.read, Reading.tokens, List.forall_mem_append, List.forall_mem_singleton]
    exact ⟨Token.written_of_mem_ofText hplain, trivial⟩
  | qualifier relation =>
    cases inside with
    | false => simp [Layout.read]
    | true =>
      simp only [Layout.read, Reading.tokens, if_true, List.forall_mem_append,
        List.forall_mem_singleton]
      exact ⟨trivial, Token.written_of_mem_ofText (.inl (by decide))⟩
  | fail error => exact haccepted.elim
  | seq first second hfirst hsecond =>
    simp only [Layout.read, List.forall_mem_append]
    exact ⟨hfirst hplain.1 haccepted.1 inside,
      hsecond (hplain.2 haccepted.1) haccepted.2 inside⟩
  | scope body hbody => exact hbody hplain haccepted true
  | frame prologue body front link hprologue hbody hfront hlink =>
    rw [Layout.read_frame_of_writing (r := .tokens d) rfl]
    simp only [List.forall_mem_append]
    obtain ⟨hplain₁, hplain₂, hplain₃, hplain₄⟩ := hplain
    obtain ⟨haccepted₁, haccepted₂, haccepted₃, haccepted₄⟩ := haccepted
    exact ⟨⟨⟨hprologue hplain₁ haccepted₁ inside, hfront hplain₃ haccepted₃ inside⟩,
      hlink hplain₄ haccepted₄ inside⟩, hbody hplain₂ haccepted₂ inside⟩
  | _ => simp [Layout.read, Reading.tokens, Token.Written]

end BoundSql
