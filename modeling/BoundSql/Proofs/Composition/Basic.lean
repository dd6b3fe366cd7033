import BoundSql.Proofs.Lexical.Text
import Mathlib.Data.List.Forall2

/-!
# How layouts are composed

Two dialects lay a tree out in the same way if the second one is no stricter than the first and
differs from it in nothing but the quote, the placeholders and the operator `%` (`Dialect.Widens`).
`Layout.Composed` holds the two layouts side by side and says what each text in them looks like: it
is plain, and it leads from one depth of parentheses to another. The texts are fixed in advance but
for three kinds: the bounds of a SELECT, which hold numbers, and the names of functions and of
types, which come from the tree and are checked before they are written.
-/

set_option autoImplicit false
set_option relaxedAutoImplicit false

namespace BoundSql

/-! ### Texts -/

namespace Text

/-- The text may stand outside of quotes, and leads from one depth of parentheses to another. -/
structure Sound (before after : Nat) (characters : List Char) : Prop where
  plain : isPlainText characters = true
  leads : Leads before after characters

instance (before after : Nat) (characters : List Char) :
    Decidable (Sound before after characters) :=
  decidable_of_iff (isPlainText characters = true ∧ Leads before after characters)
    ⟨fun h ↦ ⟨h.1, h.2⟩, fun h ↦ ⟨h.plain, h.leads⟩⟩

theorem sound_nil (depth : Nat) : Sound depth depth [] := ⟨rfl, leads_nil depth⟩

/-- What may stand at one depth of parentheses may stand at every deeper one. -/
theorem Sound.lift {before after : Nat} {characters : List Char}
    (hsound : Sound before after characters) (more : Nat) :
    Sound (before + more) (after + more) characters :=
  ⟨hsound.plain, hsound.leads.lift more⟩

end Text

/-! ### Dialects -/

namespace Dialect

/-- The second dialect refuses nothing that the first one writes, and what it writes differs in
quotes, placeholders and the operator `%` at most. -/
structure Widens (d e : Dialect) : Prop where
  nameFault?_eq_none : ∀ name, d.nameFault? name = none → e.nameFault? name = none
  paging_eq : e.paging = d.paging
  unboundedLimit_eq : e.unboundedLimit = d.unboundedLimit
  aliasKeyword_eq : e.aliasKeyword = d.aliasKeyword
  aliasesInsert_eq : e.aliasesInsert = d.aliasesInsert
  hasReturning_of : d.hasReturning = true → e.hasReturning = true

variable {d e : Dialect}

/-- A dialect is no stricter than itself. -/
theorem Widens.refl (d : Dialect) : d.Widens d := ⟨fun _ ↦ id, rfl, rfl, rfl, rfl, id⟩

namespace Widens

variable (hwidens : d.Widens e)

include hwidens

/-- A name that the first dialect writes is written by the wider one. -/
theorem nameError?_eq_none {name : String} (hname : d.nameError? name = none) :
    e.nameError? name = none := by
  rw [nameError?_eq_none_iff] at hname ⊢
  exact hwidens.nameFault?_eq_none name hname

/-- Names that the first dialect writes are written by the wider one. -/
theorem namesError?_eq_none {names : List String} (hnames : d.namesError? names = none) :
    e.namesError? names = none := by
  rw [namesError?, List.findSome?_eq_none_iff] at hnames ⊢
  exact fun name hname ↦ hwidens.nameError?_eq_none (hnames name hname)

/-- A column that the first dialect writes is written by the wider one. -/
theorem columnError?_eq_none {column : Column} (hcolumn : column.error? d = none) :
    column.error? e = none := by
  unfold Column.error? at hcolumn ⊢
  split
  · rfl
  · rename_i hwildcard
    rw [if_neg hwildcard] at hcolumn
    exact hwidens.nameError?_eq_none hcolumn

/-- Columns that the first dialect writes are written by the wider one. -/
theorem columnsError?_eq_none {columns : List Column}
    (hcolumns : columns.findSome? (Column.error? d) = none) :
    columns.findSome? (Column.error? e) = none := by
  rw [List.findSome?_eq_none_iff] at hcolumns ⊢
  exact fun column hcolumn ↦ hwidens.columnError?_eq_none (hcolumns column hcolumn)

/-- Results that the first dialect returns are returned by the wider one. -/
theorem returningError?_eq_none {items : List ResultItem}
    (hitems : ResultItem.returningError? d items = none) :
    ResultItem.returningError? e items = none := by
  simp only [ResultItem.returningError?, ite_eq_left_iff, Bool.or_eq_true, reduceCtorEq, imp_false,
    not_not] at hitems ⊢
  exact hitems.imp_right hwidens.hasReturning_of

/-- An INSERT that passes the checks of the first dialect passes those of the wider one. -/
theorem insertError?_eq_none {insert : Insert} (hinsert : insert.error? d = none) :
    insert.error? e = none := by
  unfold Insert.error? at hinsert ⊢
  rw [Option.or_eq_none_iff] at hinsert ⊢
  obtain ⟨hfit, hconflict⟩ := hinsert
  refine ⟨hfit, ?_⟩
  cases hclause : insert.conflict with
  | none => rfl
  | some conflict =>
    by_cases haliases : d.aliasesInsert = true
    · simpa [hclause, hwidens.aliasesInsert_eq, haliases] using hconflict
    · simp [hclause, haliases] at hconflict

/-- The text in front of an alias is the same under the wider dialect. -/
theorem aliasLead_eq : e.aliasLead = d.aliasLead := by
  rw [aliasLead, aliasLead, hwidens.aliasKeyword_eq]

/-- The bounds of a SELECT are the same under the wider dialect. -/
theorem bounds_eq (limit offset : Option Nat) : e.bounds limit offset = d.bounds limit offset := by
  simp only [bounds, hwidens.paging_eq, hwidens.unboundedLimit_eq]

end Widens

/-- The text in front of an alias is plain. -/
theorem sound_aliasLead : Text.Sound 0 0 d.aliasLead.toList := by
  unfold aliasLead
  split <;> decide

/-- The bounds of a SELECT are plain text without parentheses. -/
theorem sound_bounds (limit offset : Option Nat) :
    Text.Sound 0 0 (d.bounds limit offset).toList :=
  ⟨isPlainText_bounds limit offset, leads_bounds limit offset⟩

end Dialect

/-! ### Layouts -/

namespace Layout

/-- The layouts of a part of a tree under two dialects. Where the first one fails, nothing is said
of the second. Texts lead from the first depth of parentheses to the second. -/
inductive Composed (d e : Dialect) : Nat → Nat → Layout → Layout → Prop
  /-- Nothing is written. -/
  | nothing {depth : Nat} : Composed d e depth depth .nothing .nothing
  /-- The same text. -/
  | text {before after : Nat} {characters : String}
    (hsound : Text.Sound before after characters.toList) :
    Composed d e before after (.text characters) (.text characters)
  /-- An operator between two blanks. -/
  | operator {depth : Nat} (op : BinaryOp) :
    Composed d e depth depth (.text (" " ++ d.operator op ++ " "))
      (.text (" " ++ e.operator op ++ " "))
  /-- The same value. -/
  | placeholder {depth : Nat} (bound : Value) :
    Composed d e depth depth (.placeholder bound) (.placeholder bound)
  /-- The same name. -/
  | identifier {depth : Nat} (name : String) :
    Composed d e depth depth (.identifier name) (.identifier name)
  /-- The same relation, met without being written. -/
  | visit {depth : Nat} (relation : Identity) :
    Composed d e depth depth (.visit relation) (.visit relation)
  /-- The same alias. -/
  | relationAlias {depth : Nat} {lead : String} (hlead : Text.Sound depth depth lead.toList)
    (relation : Identity) :
    Composed d e depth depth (.relationAlias lead relation) (.relationAlias lead relation)
  /-- The same qualifier. -/
  | qualifier {depth : Nat} (relation : Identity) :
    Composed d e depth depth (.qualifier relation) (.qualifier relation)
  /-- The name of a function. -/
  | function {depth : Nat} (word : String) :
    Composed d e depth depth (BareWord.function.layout word) (BareWord.function.layout word)
  /-- A cast checks its type in front of the operand and writes it behind the operand. -/
  | cast {depth : Nat} {operand other : Layout} (hoperand : Composed d e 0 0 operand other)
    (typeName : String) :
    Composed d e depth depth
      (require (BareWord.type.error? typeName) ++ .text "CAST(" ++ operand ++
        .text (" AS " ++ typeName ++ ")"))
      (require (BareWord.type.error? typeName) ++ .text "CAST(" ++ other ++
        .text (" AS " ++ typeName ++ ")"))
  /-- An error of the first layout, which the second need not have. -/
  | fail {before after : Nat} (error : Refusal) (other : Layout) :
    Composed d e before after (.fail error) other
  /-- One layout after the other. -/
  | seq {before middle after : Nat} {first second third fourth : Layout}
    (hfirst : Composed d e before middle first second)
    (hlater : Composed d e middle after third fourth) :
    Composed d e before after (.seq first third) (.seq second fourth)
  /-- A statement. -/
  | scope {depth : Nat} {first second : Layout} (hbody : Composed d e 0 0 first second) :
    Composed d e depth depth (.scope first) (.scope second)
  /-- A frame. -/
  | frame {depth : Nat} {prologue prologue' body body' front front' link link' : Layout}
    (hprologue : Composed d e 0 0 prologue prologue') (hbody : Composed d e 0 0 body body')
    (hfront : Composed d e 0 0 front front') (hlink : Composed d e 0 0 link link') :
    Composed d e depth depth (.frame prologue body front link)
      (.frame prologue' body' front' link')

namespace Composed

variable {d e : Dialect} {before middle after : Nat} {first second third fourth : Layout}
  {layouts others : List Layout}

/-- What is composed part by part is composed, if each part leads to the depth at which the next one
begins. -/
theorem append (hfirst : Composed d e before middle first second)
    (hlater : Composed d e middle after third fourth) :
    Composed d e before after (first ++ third) (second ++ fourth) := .seq hfirst hlater

/-- A text that closes the parentheses that it opens. -/
theorem phrase (characters : String)
    (hsound : Text.Sound 0 0 characters.toList := by decide) :
    Composed d e 0 0 (Layout.text characters) (Layout.text characters) := .text hsound

/-- The same layouts may stand inside of further parentheses. -/
theorem lift (hlayouts : Composed d e before after first second) (more : Nat) :
    Composed d e (before + more) (after + more) first second := by
  induction hlayouts with
  | nothing => exact .nothing
  | text hsound => exact .text (hsound.lift more)
  | operator op => exact .operator op
  | placeholder bound => exact .placeholder bound
  | identifier name => exact .identifier name
  | visit relation => exact .visit relation
  | relationAlias hlead relation => exact .relationAlias (hlead.lift more) relation
  | qualifier relation => exact .qualifier relation
  | function word => exact .function word
  | cast hoperand typeName => exact .cast hoperand typeName
  | fail error other => exact .fail error other
  | seq _ _ ihfirst ihlater => exact .seq ihfirst ihlater
  | scope hbody => exact .scope hbody
  | frame hprologue hbody hfront hlink => exact .frame hprologue hbody hfront hlink

/-- What is composed outside of all parentheses is composed at every depth. -/
theorem within (hlayouts : Composed d e 0 0 first second) (depth : Nat) :
    Composed d e depth depth first second := by
  have hlifted := hlayouts.lift depth
  rw [Nat.zero_add] at hlifted
  exact hlifted

/-- A check that passes under the first dialect passes under the second. -/
theorem require {depth : Nat} {error other : Option Refusal}
    (hless : error = none → other = none) :
    Composed d e depth depth (Layout.require error) (Layout.require other) := by
  cases error with
  | some refusal => exact .fail refusal _
  | none =>
    rw [hless rfl]
    exact .nothing

/-- The alias behind a relation. -/
theorem tableAlias (hwidens : d.Widens e) (relation : Identity) :
    Composed d e 0 0 (Layout.relationAlias d.aliasLead relation)
      (Layout.relationAlias e.aliasLead relation) := by
  rw [hwidens.aliasLead_eq]
  exact .relationAlias Dialect.sound_aliasLead relation

/-- The bounds of a SELECT are composed. -/
theorem bounds (hwidens : d.Widens e) (limit offset : Option Nat) :
    Composed d e 0 0 (Layout.text (d.bounds limit offset))
      (Layout.text (e.bounds limit offset)) := by
  rw [hwidens.bounds_eq]
  exact .text (Dialect.sound_bounds limit offset)

/-- A list is composed if its members are and its separator is plain. -/
theorem separated {separator : String} (hseparator : Text.Sound 0 0 separator.toList)
    (hlayouts : List.Forall₂ (Composed d e 0 0) layouts others) :
    Composed d e 0 0 (Layout.separated separator layouts)
      (Layout.separated separator others) := by
  induction hlayouts with
  | nil => exact .nothing
  | cons hfirst hrest ih =>
    cases hrest with
    | nil => exact hfirst
    | cons hsecond hrest => exact (hfirst.append (.text hseparator)).append ih

theorem commaSeparated (hlayouts : List.Forall₂ (Composed d e 0 0) layouts others) :
    Composed d e 0 0 (Layout.commaSeparated layouts) (Layout.commaSeparated others) :=
  .separated (by decide) hlayouts

/-- A list that is checked first. The parenthesis around it opens in one text and closes in
another. -/
theorem checkedList {error other : Option Refusal} (hless : error = none → other = none)
    {lead close : String} {middle : Nat} (hlead : Text.Sound before middle lead.toList)
    (hlayouts : ∀ layout ∈ layouts, Composed d e 0 0 layout layout)
    (hclose : Text.Sound middle after close.toList) :
    Composed d e before after
      (Layout.require error ++ Layout.text lead ++ Layout.commaSeparated layouts ++
        Layout.text close)
      (Layout.require other ++ Layout.text lead ++ Layout.commaSeparated layouts ++
        Layout.text close) := by
  have hlist := Composed.commaSeparated (List.forall₂_same.mpr hlayouts)
  exact (((require hless).append (.text hlead)).append (hlist.within middle)).append
    (.text hclose)

/-- A clause is composed if its keyword is plain and its body, if it has one, is composed. -/
theorem clause (keyword : String) {body other : Option Layout}
    (hbody : Option.Rel (Composed d e 0 0) body other)
    (hkeyword : Text.Sound 0 0 keyword.toList := by decide) :
    Composed d e 0 0 (Layout.clause keyword body) (Layout.clause keyword other) := by
  cases hbody with
  | none => exact .nothing
  | some hpresent => exact .append (.text hkeyword) hpresent

/-- A word that may be absent, behind a blank. -/
theorem wordClause {α : Type} {spelling : α → String} (chosen : Option α)
    (hspelling : ∀ word, Text.Sound 0 0 (spelling word).toList) :
    Composed d e 0 0 (Layout.clause " " (chosen.map fun word ↦ Layout.text (spelling word)))
      (Layout.clause " " (chosen.map fun word ↦ Layout.text (spelling word))) := by
  cases chosen with
  | none => exact .nothing
  | some word => exact .clause " " (.some (.text (hspelling word))) (by decide)

/-- A list clause is composed if its keyword is plain and its members are composed. -/
theorem listClause (keyword : String)
    (hlayouts : List.Forall₂ (Composed d e 0 0) layouts others)
    (hkeyword : Text.Sound 0 0 keyword.toList := by decide) :
    Composed d e 0 0 (Layout.listClause keyword layouts)
      (Layout.listClause keyword others) := by
  cases hlayouts with
  | nil => exact .nothing
  | cons hfirst hrest => exact .append (.text hkeyword) (.commaSeparated (hrest.cons hfirst))

/-- What is composed is composed in parentheses, one level deeper. -/
theorem parenthesized (hbody : Composed d e 0 0 first second) :
    Composed d e 0 0 (Layout.parenthesized first) (Layout.parenthesized second) := by
  have hopen : Text.Sound 0 1 "(".toList := by decide
  have hclose : Text.Sound 1 0 ")".toList := by decide
  exact (append (.text hopen) (hbody.within 1)).append (.text hclose)

/-- What is composed is composed where it is written as a whole or not at all. -/
theorem atomic (hbody : Composed d e 0 0 first second) :
    Composed d e 0 0 (Layout.atomic first) (Layout.atomic second) :=
  .frame .nothing hbody .nothing .nothing

end Composed

end Layout

end BoundSql
