import BoundSql.Proofs.Composition.Layout
import BoundSql.Proofs.WellFormed.Layout

/-!
# Layouts with single percent signs

Where placeholders are written with a percent sign, a tree doubles the percent sign of its own
operator and refuses names with one. `Layout.Undoubles` relates such a layout to one that writes
single percent signs and may refuse less. The layouts of a tree under two dialects that differ in
nothing but the spelling of placeholders are so related (`Node.undoubles_layout`): no other text of
a layout depends on it.
-/

set_option autoImplicit false
set_option relaxedAutoImplicit false

namespace BoundSql

/-- The dialect with question marks for placeholders, under another name. -/
def Dialect.withQmarks (d : Dialect) (name : String) : Dialect :=
  { d with name := name, paramStyle := .qmark }

namespace Layout

/-- The second layout is the first one with single percent signs in place of the doubled ones. Where
the first one fails, nothing is said of the second. -/
inductive Undoubles : Layout → Layout → Prop
  /-- Nothing is written. -/
  | nothing : Undoubles nothing nothing
  /-- The same text. -/
  | text (characters : String) : Undoubles (text characters) (text characters)
  /-- The operator `%` between two blanks. -/
  | percent : Undoubles (.text " %% ") (.text " % ")
  /-- The same value. -/
  | placeholder (bound : Value) : Undoubles (placeholder bound) (placeholder bound)
  /-- The same name. -/
  | identifier (name : String) : Undoubles (identifier name) (identifier name)
  /-- The same relation, met without being written. -/
  | visit (relation : Identity) : Undoubles (visit relation) (visit relation)
  /-- The same alias. -/
  | relationAlias (lead : String) (relation : Identity) :
    Undoubles (relationAlias lead relation) (relationAlias lead relation)
  /-- The same qualifier. -/
  | qualifier (relation : Identity) : Undoubles (qualifier relation) (qualifier relation)
  /-- An error of the first layout, which the second need not have. -/
  | fail (error : Refusal) (other : Layout) : Undoubles (fail error) other
  /-- One layout after the other. -/
  | seq {first second third fourth : Layout} (hfirst : Undoubles first second)
    (hlater : Undoubles third fourth) : Undoubles (seq first third) (seq second fourth)
  /-- A statement. -/
  | scope {first second : Layout} (hbody : Undoubles first second) :
    Undoubles (scope first) (scope second)
  /-- A frame. -/
  | frame {prologue prologue' body body' front front' link link' : Layout}
    (hprologue : Undoubles prologue prologue') (hbody : Undoubles body body')
    (hfront : Undoubles front front') (hlink : Undoubles link link') :
    Undoubles (frame prologue body front link) (frame prologue' body' front' link')

/-- A layout is related to itself. -/
theorem Undoubles.refl (layout : Layout) : Undoubles layout layout := by
  induction layout with
  | nothing => exact .nothing
  | text characters => exact .text characters
  | placeholder bound => exact .placeholder bound
  | identifier name => exact .identifier name
  | visit relation => exact .visit relation
  | relationAlias lead relation => exact .relationAlias lead relation
  | qualifier relation => exact .qualifier relation
  | fail error => exact .fail error _
  | seq first second hfirst hsecond => exact .seq hfirst hsecond
  | scope body hbody => exact .scope hbody
  | frame prologue body front link hprologue hbody hfront hlink =>
    exact .frame hprologue hbody hfront hlink

end Layout

/-! ### Question marks for placeholders -/

variable {d : Dialect}

namespace Dialect

/-- A name that may be written where percent signs are refused may be written anywhere. -/
theorem nameFault?_withQmarks (name : String) {supplied : String}
    (hname : d.nameFault? supplied = none) : (d.withQmarks name).nameFault? supplied = none := by
  rw [nameFault?_eq_none_iff] at hname ⊢
  exact ⟨hname.nonempty, hname.quote_free, hname.nul_free, nofun⟩

theorem widens_withQmarks (d : Dialect) (name : String) : d.Widens (d.withQmarks name) :=
  ⟨fun _ ↦ nameFault?_withQmarks name, rfl, rfl, rfl, rfl, id⟩

/-- The operator `%` is the one text that depends on how placeholders are written. -/
theorem undoubles_operator (d : Dialect) (name : String) (op : BinaryOp) :
    Layout.Undoubles (.text (" " ++ d.operator op ++ " "))
      (.text (" " ++ (d.withQmarks name).operator op ++ " ")) := by
  have hother : (d.withQmarks name).operator op = op.spelling := by
    simp [operator, withQmarks, ParamStyle.doublesPercent]
  rw [hother, operator]
  split
  · rename_i hpercent
    rw [hpercent.1]
    exact .percent
  · exact .text _

end Dialect

theorem Layout.Composed.undoubles {name : String} {before after : Nat} {first second : Layout}
    (hlayouts : Composed d (d.withQmarks name) before after first second) :
    Undoubles first second := by
  induction hlayouts with
  | nothing => exact .nothing
  | text _ => exact .text _
  | operator op => exact d.undoubles_operator name op
  | placeholder bound => exact .placeholder bound
  | identifier supplied => exact .identifier supplied
  | visit relation => exact .visit relation
  | relationAlias _ relation => exact .relationAlias _ relation
  | qualifier relation => exact .qualifier relation
  | function word => exact .refl _
  | cast _ typeName ihoperand => exact .seq (.seq (.refl _) ihoperand) (.text _)
  | fail error other => exact .fail error other
  | seq _ _ ihfirst ihlater => exact .seq ihfirst ihlater
  | scope _ ihbody => exact .scope ihbody
  | frame _ _ _ _ ihprologue ihbody ihfront ihlink =>
    exact .frame ihprologue ihbody ihfront ihlink

/-- The layouts of a node under two dialects that differ in their placeholders. -/
theorem Node.undoubles_layout (node : Node) (name : String) :
    Layout.Undoubles (node.layout d) (node.layout (d.withQmarks name)) :=
  (node.composed_layout (d.widens_withQmarks name)).undoubles

end BoundSql
