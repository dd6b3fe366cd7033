import BoundSql.Proofs.QuotedText.Tokens

/-!
# Layouts that keep to themselves

What a tree writes outside of quotes leads from outside of all parentheses back there, whatever
stands around it (`Node.balanced_layout`). The parentheses of a tree come from few places: each
operator and each subquery has a pair, a cast and a list of names have one that opens in one text
and closes in another, and the modifier of a type has one that the grammar of types closes. Function
names and types are checked before they are written, so this holds as far as the layout is accepted.
-/

set_option autoImplicit false
set_option relaxedAutoImplicit false

namespace BoundSql

/-! ### The text outside of quotes -/

namespace Segment

/-- The characters of a segment that stand outside of quotes. -/
def unquoted : Segment → List Char
  | bare characters => characters
  | quoted _ => []

theorem outside_ne_nil (segments : List Segment) : outside segments ≠ [] := by
  induction segments with
  | nil => simp [outside]
  | cons segment rest ih => cases segment <;> simp [outside, ih]

/-- The pieces outside of quotes make up the bare segments. -/
theorem flatten_outside (segments : List Segment) :
    (outside segments).flatten = segments.flatMap unquoted := by
  induction segments with
  | nil => rfl
  | cons segment rest ih =>
    rw [List.flatMap_cons, ← ih]
    cases segment with
    | quoted characters => rfl
    | bare characters =>
      rw [outside]
      cases hrest : outside rest with
      | nil => exact absurd hrest (outside_ne_nil rest)
      | cons piece pieces => exact List.append_assoc characters piece pieces.flatten

end Segment

namespace Token

variable {d : Dialect} {aliasOf : Identity → String}

/-- The text outside of quotes of a run of tokens in which `position` values come before the first
of them. -/
def unquoted (d : Dialect) (aliasOf : Identity → String) (position : Nat) (tokens : List Token) :
    List Char :=
  (segments d aliasOf position tokens).flatMap Segment.unquoted

/-- Behind a run of tokens the placeholders go on counting. -/
theorem unquoted_append (position : Nat) (first second : List Token) :
    unquoted d aliasOf position (first ++ second) =
      unquoted d aliasOf position first ++
        unquoted d aliasOf (position + (first.flatMap literals).length) second := by
  unfold unquoted
  induction first generalizing position with
  | nil => rfl
  | cons token rest ih =>
    cases token with
    | value bound =>
      have hcount : position + 1 + (rest.flatMap literals).length =
          position + ((value bound :: rest).flatMap literals).length := by
        simp [literals, Nat.add_assoc, Nat.add_comm]
      simp only [List.cons_append, segments, List.flatMap_cons, ih, List.append_assoc, hcount]
    | _ => simp [segments, ih, literals]

/-- Text stands outside of quotes as it is. -/
theorem unquoted_ofText (position : Nat) (characters : String) :
    unquoted d aliasOf position (ofText characters) = characters.toList := by
  unfold ofText
  split
  · rename_i hempty
    rw [hempty]
    rfl
  · exact List.append_nil characters.toList

end Token

/-! ### Layouts -/

namespace Layout

/-- As far as the layout is accepted, what it writes outside of quotes leads from one depth of
parentheses to another. -/
def Leads (d : Dialect) (before after : Nat) (layout : Layout) : Prop :=
  layout.Accepted d → ∀ (aliasOf : Identity → String) (position : Nat) (inside : Bool),
    Text.Leads before after
      (Token.unquoted d aliasOf position (layout.read (.tokens d) inside))

/-- As far as the layout is accepted, what it writes outside of quotes closes all parentheses that
it opens, and no others. -/
def Balanced (d : Dialect) (layout : Layout) : Prop := layout.Leads d 0 0

variable {d e : Dialect} {before middle after : Nat} {first second layout : Layout}

/-- What has been accepted in front of a layout is known inside of it. -/
theorem Leads.append_of_accepted (hfirst : first.Leads d before middle)
    (hsecond : first.Accepted d → second.Leads d middle after) :
    (first ++ second).Leads d before after := by
  intro haccepted aliasOf position inside
  rw [read_append, Token.unquoted_append]
  exact (hfirst haccepted.1 aliasOf position inside).append
    (hsecond haccepted.1 haccepted.2 aliasOf _ inside)

/-- Layouts in a row lead from the first depth to the last one. -/
theorem Leads.append (hfirst : first.Leads d before middle)
    (hsecond : second.Leads d middle after) : (first ++ second).Leads d before after :=
  hfirst.append_of_accepted fun _ ↦ hsecond

/-- A layout leads as well from every deeper level. -/
theorem Leads.lift (hlayout : layout.Leads d before after) (more : Nat) :
    layout.Leads d (before + more) (after + more) :=
  fun haccepted aliasOf position inside ↦
    (hlayout haccepted aliasOf position inside).lift more

/-- Balanced layouts may stand inside of parentheses. -/
theorem Balanced.leads (hlayout : layout.Balanced d) (depth : Nat) :
    layout.Leads d depth depth := by
  have hlifted := Leads.lift hlayout depth
  rw [Nat.zero_add] at hlifted
  exact hlifted

/-- A text leads where its characters lead. -/
theorem leads_text {characters : String}
    (hleads : Text.Leads before after characters.toList) :
    (text characters).Leads d before after := by
  intro _ aliasOf position inside
  show Text.Leads before after (Token.unquoted d aliasOf position (Token.ofText characters))
  rw [Token.unquoted_ofText]
  exact hleads

/-- What writes nothing outside of quotes keeps the depth. -/
theorem leads_of_unquoted_eq_nil
    (hnothing : ∀ aliasOf position inside,
      Token.unquoted d aliasOf position (layout.read (.tokens d) inside) = []) (depth : Nat) :
    layout.Leads d depth depth := by
  intro _ aliasOf position inside
  rw [hnothing]
  exact Text.leads_nil depth

theorem leads_require (error : Option Refusal) (depth : Nat) :
    (require error).Leads d depth depth :=
  leads_of_unquoted_eq_nil (by cases error <;> exact fun _ _ _ ↦ rfl) depth

/-- A placeholder has no parentheses, in any style. -/
theorem leads_placeholder (bound : Value) (depth : Nat) :
    (placeholder bound).Leads d depth depth := by
  intro _ aliasOf position inside
  show Text.Leads depth depth ((d.paramStyle.marker (position + 1)).toList ++ [])
  rw [List.append_nil]
  exact Dialect.leads_marker d.paramStyle (position + 1) depth

/-- An alias leads where the text in front of it leads. -/
theorem leads_relationAlias {lead : String} (hlead : Text.Leads before after lead.toList)
    (relation : Identity) : (relationAlias lead relation).Leads d before after := by
  intro _ aliasOf position inside
  show Text.Leads before after
    (Token.unquoted d aliasOf position (Token.ofText lead ++ [.mention relation]))
  rw [Token.unquoted_append, Token.unquoted_ofText]
  exact hlead.append (Text.leads_nil after)

theorem balanced_qualifier (relation : Identity) : (qualifier relation).Balanced d := by
  intro _ aliasOf position inside
  cases inside with
  | false => exact Text.leads_nil 0
  | true =>
    show Text.Leads 0 0 ['.']
    decide

/-- A function name is written only if it has been allowed, and then it is inert. -/
theorem leads_function (word : String) (depth : Nat) :
    (BareWord.function.layout word).Leads d depth depth := by
  apply (leads_require _ depth).append_of_accepted
  intro haccepted
  have hallows : BareWord.function.allows word = true := by
    simpa [BareWord.error?] using haccepted
  have hinert := Text.FunctionPosition.all_isInert_of_accepts .start word.toList hallows
  exact leads_text (Text.leads_of_all_isInert hinert depth)

/-- A type closes the cast that it stands in, and nothing else. -/
theorem leads_typeSuffix {typeName : String} (htype : BareWord.type.error? typeName = none) :
    (text (" AS " ++ typeName ++ ")")).Leads d 1 0 := by
  have hallows : BareWord.type.allows typeName = true := by
    simpa [BareWord.error?] using htype
  have hlead : Text.Leads 1 1 " AS ".toList := by decide
  have hclose : Text.Leads 1 0 ")".toList := by decide
  have hname := (Text.TypePosition.leads_of_accepts .start typeName.toList hallows).lift 1
  apply leads_text
  rw [String.toList_append, String.toList_append]
  exact (hlead.append hname).append hclose

/-- The parenthesis of a cast opens in one text and closes in another. -/
theorem balanced_cast {operand : Layout} (hoperand : operand.Balanced d) (typeName : String) :
    (require (BareWord.type.error? typeName) ++ text "CAST(" ++ operand ++
      text (" AS " ++ typeName ++ ")")).Balanced d := by
  have hopen : (text "CAST(").Leads d 0 1 := leads_text (by decide)
  have hleading := ((leads_require (BareWord.type.error? typeName) 0).append hopen).append
    (hoperand.leads 1)
  exact hleading.append_of_accepted fun haccepted ↦
    leads_typeSuffix ((accepted_require _).mp haccepted.1.1)

theorem balanced_scope (hlayout : layout.Balanced d) : (scope layout).Balanced d :=
  fun haccepted aliasOf position _ ↦ hlayout haccepted aliasOf position true

/-- The parts of a frame are written one after the other, in another order than they are met. -/
theorem balanced_frame {prologue body front link : Layout} (hprologue : prologue.Balanced d)
    (hbody : body.Balanced d) (hfront : front.Balanced d) (hlink : link.Balanced d) :
    (frame prologue body front link).Balanced d := by
  rintro ⟨haccepted₁, haccepted₂, haccepted₃, haccepted₄⟩
  have hwritten := ((hprologue.append hfront).append hlink).append hbody
    ⟨⟨⟨haccepted₁, haccepted₃⟩, haccepted₄⟩, haccepted₂⟩
  intro aliasOf position inside
  rw [read_frame_of_writing (r := .tokens d) rfl]
  exact hwritten aliasOf position inside

/-- What holds of the texts of a layout holds of all that it writes outside of quotes. -/
theorem Composed.leads (hlayouts : Composed d e before after first second) :
    first.Leads d before after := by
  induction hlayouts with
  | nothing | identifier name | visit relation =>
    exact leads_of_unquoted_eq_nil (fun _ _ _ ↦ rfl) _
  | text hsound => exact leads_text hsound.leads
  | operator op => exact Balanced.leads (leads_text (Dialect.leads_operator op)) _
  | placeholder bound => exact leads_placeholder bound _
  | relationAlias hlead relation => exact leads_relationAlias hlead.leads relation
  | qualifier relation => exact (balanced_qualifier relation).leads _
  | function word => exact leads_function word _
  | cast _ typeName ihoperand => exact (balanced_cast ihoperand typeName).leads _
  | fail error other => exact fun haccepted ↦ haccepted.elim
  | seq _ _ ihfirst ihlater => exact ihfirst.append ihlater
  | scope _ ihbody => exact (balanced_scope ihbody).leads _
  | frame _ _ _ _ ihprologue ihbody ihfront ihlink =>
    exact (balanced_frame ihprologue ihbody ihfront ihlink).leads _

end Layout

/-- The layout of a node is balanced as far as it is accepted. -/
theorem Node.balanced_layout {d : Dialect} (node : Node) : (node.layout d).Balanced d :=
  (node.composed_layout (.refl d)).leads

end BoundSql
