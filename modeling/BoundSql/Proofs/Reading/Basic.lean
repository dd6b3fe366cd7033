import BoundSql.Layout.Run
import BoundSql.Tree.Layout

/-!
# Readings

A `Reading` says what is taken from each part of a tree, and in which of two orders the clauses of
a statement are gone through: the order of the text, or the order in which relations are met. The
readings used are the tokens of the text (`Reading.tokens`), the relations that are met
(`Reading.meetings`), the bound values (`Reading.literals`) and what stands between quotes
(`Reading.quotes`). `Layout.read` reads a layout; it neither fails nor hands out aliases. What is
taken from the tokens of a layout can be taken from the layout itself (`Layout.read_flatMap`).
-/

set_option autoImplicit false
set_option relaxedAutoImplicit false

namespace BoundSql

/-- The two orders of the clauses of a statement. -/
inductive ClauseOrder where
  /-- The order in which relations are met. -/
  | meeting
  /-- The order of the text. -/
  | writing
deriving DecidableEq

/-- What is taken from each part of a tree, and the order of the clauses. -/
structure Reading (α : Type) where
  /-- The order in which the clauses of a statement are gone through. -/
  order : ClauseOrder
  /-- What is taken from a text that is the same under every dialect. -/
  text : String → List α
  /-- What is taken from a bound value. -/
  value : Value → List α
  /-- What is taken from a name of the tree. -/
  name : String → List α
  /-- What is taken from the written alias of a relation. -/
  mention : Identity → List α
  /-- What is taken from a relation that is met but not written. -/
  visit : Identity → List α
  /-- What is taken from an operator between two operands. -/
  operator : BinaryOp → List α
  /-- What is taken from the bounds of a SELECT. -/
  bounds : Option Nat → Option Nat → List α
  /-- What is taken from the alias behind a relation. -/
  tableAlias : Identity → List α
  /-- What is taken from the alias behind the target of an INSERT. -/
  targetAlias : Identity → List α

/-- The reading takes from the parts that dialects spell differently what it takes from the
spelling of this dialect. -/
structure Reading.Fits {α : Type} (r : Reading α) (d : Dialect) : Prop where
  text_empty : r.text "" = []
  operator_eq : ∀ op, r.operator op = r.text (" " ++ d.operator op ++ " ")
  bounds_eq : ∀ limit offset, r.bounds limit offset = r.text (d.bounds limit offset)
  tableAlias_eq : ∀ relation, r.tableAlias relation = r.text d.aliasLead ++ r.mention relation
  targetAlias_eq : ∀ relation,
    r.targetAlias relation = if d.aliasesInsert then r.tableAlias relation else []

/-! ### The readings -/

/-- A part of a text of which only the aliases are still open. -/
inductive Token where
  /-- Text that is written as it stands. -/
  | text (characters : String)
  /-- A value, written as a placeholder. -/
  | value (bound : Value)
  /-- A name of the tree, written between quotes. -/
  | name (supplied : String)
  /-- The alias of a relation, written between quotes. -/
  | mention (relation : Identity)
deriving DecidableEq

namespace Token

/-- The token as a part of a piece, once every relation has an alias. -/
def part (d : Dialect) (aliasOf : Identity → String) : Token → Part
  | text characters => .text characters
  | value bound => .value bound
  | name supplied => .text (d.enclose supplied)
  | mention relation => .text (d.enclose (aliasOf relation))

/-- The token of a text, unless the text is empty. -/
def ofText (characters : String) : List Token := if characters = "" then [] else [text characters]

/-- The value of a token. -/
def literals : Token → List Value
  | value bound => [bound]
  | _ => []

/-- What a token writes between quotes. -/
def quotes (aliasOf : Identity → String) : Token → List String
  | name supplied => [supplied]
  | mention relation => [aliasOf relation]
  | _ => []

end Token

namespace Reading

/-- The relations in the order in which they are met. -/
def meetings (d : Dialect) : Reading Identity where
  order := .meeting
  text _ := []
  value _ := []
  name _ := []
  mention relation := [relation]
  visit relation := [relation]
  operator _ := []
  bounds _ _ := []
  tableAlias relation := [relation]
  targetAlias relation := if d.aliasesInsert then [relation] else []

/-- The tokens in the order of the text. -/
def tokens (d : Dialect) : Reading Token where
  order := .writing
  text := Token.ofText
  value bound := [.value bound]
  name supplied := [.name supplied]
  mention relation := [.mention relation]
  visit _ := []
  operator op := Token.ofText (" " ++ d.operator op ++ " ")
  bounds limit offset := Token.ofText (d.bounds limit offset)
  tableAlias relation := Token.ofText d.aliasLead ++ [.mention relation]
  targetAlias relation :=
    if d.aliasesInsert then Token.ofText d.aliasLead ++ [.mention relation] else []

/-- The bound values in the order of the text, which are the same under every dialect. -/
def literals : Reading Value where
  order := .writing
  text _ := []
  value bound := [bound]
  name _ := []
  mention _ := []
  visit _ := []
  operator _ := []
  bounds _ _ := []
  tableAlias _ := []
  targetAlias _ := []

/-- What stands between quotes, in the order of the text: the names of the tree and the aliases. -/
def quotes (d : Dialect) (aliasOf : Identity → String) : Reading String where
  order := .writing
  text _ := []
  value _ := []
  name supplied := [supplied]
  mention relation := [aliasOf relation]
  visit _ := []
  operator _ := []
  bounds _ _ := []
  tableAlias relation := [aliasOf relation]
  targetAlias relation := if d.aliasesInsert then [aliasOf relation] else []

/-- Meeting relations fits every dialect. -/
theorem meetings_fits (d : Dialect) : (meetings d).Fits d := by
  constructor <;> intros <;> rfl

/-- The tokens of a dialect fit it. -/
theorem tokens_fits (d : Dialect) : (tokens d).Fits d := by
  constructor <;> intros <;> rfl

/-- Collecting bound values fits every dialect. -/
theorem literals_fits (d : Dialect) : literals.Fits d := by
  constructor <;> simp [literals]

/-- Collecting what stands between quotes fits the dialect. -/
theorem quotes_fits (d : Dialect) (aliasOf : Identity → String) : (quotes d aliasOf).Fits d := by
  constructor <;> intros <;> rfl

section Derived

variable {α β : Type}

/-- The reading that takes from each part what `f` takes from all that `r` takes. -/
def flatMap (r : Reading α) (f : α → List β) : Reading β where
  order := r.order
  text characters := (r.text characters).flatMap f
  value bound := (r.value bound).flatMap f
  name supplied := (r.name supplied).flatMap f
  mention relation := (r.mention relation).flatMap f
  visit relation := (r.visit relation).flatMap f
  operator op := (r.operator op).flatMap f
  bounds limit offset := (r.bounds limit offset).flatMap f
  tableAlias relation := (r.tableAlias relation).flatMap f
  targetAlias relation := (r.targetAlias relation).flatMap f

/-- What is taken further from a reading that fits fits as well. -/
theorem Fits.flatMap {r : Reading α} {d : Dialect} (hfits : r.Fits d) (f : α → List β) :
    (r.flatMap f).Fits d where
  text_empty := by simp [Reading.flatMap, hfits.text_empty]
  operator_eq op := by simp [Reading.flatMap, hfits.operator_eq]
  bounds_eq limit offset := by simp [Reading.flatMap, hfits.bounds_eq]
  tableAlias_eq relation := by simp [Reading.flatMap, hfits.tableAlias_eq]
  targetAlias_eq relation := by
    simp only [Reading.flatMap, hfits.targetAlias_eq]
    split <;> rfl

end Derived

/-- The bound values are those among the tokens. -/
theorem tokens_flatMap_literals (d : Dialect) :
    (tokens d).flatMap Token.literals = literals := by
  have htext (characters : String) :
      (Token.ofText characters).flatMap Token.literals = [] := by
    unfold Token.ofText
    split <;> rfl
  simp only [flatMap, tokens, literals, htext, List.flatMap_append]
  congr 1
  funext relation
  split <;> simp [htext, Token.literals]

/-- What stands between quotes is what the tokens have between quotes. -/
theorem tokens_flatMap_quotes (d : Dialect) (aliasOf : Identity → String) :
    (tokens d).flatMap (Token.quotes aliasOf) = quotes d aliasOf := by
  have htext (characters : String) :
      (Token.ofText characters).flatMap (Token.quotes aliasOf) = [] := by
    unfold Token.ofText
    split <;> rfl
  simp only [flatMap, tokens, quotes, htext, List.flatMap_append]
  congr 1
  funext relation
  split <;> simp [htext, Token.quotes]

end Reading

/-! ### Reading a layout -/

namespace Layout

variable {α β : Type}

/-- What a reading takes from a layout, with or without a statement around. -/
def read (r : Reading α) (inside : Bool) : Layout → List α
  | nothing => []
  | text characters => r.text characters
  | placeholder bound => r.value bound
  | identifier name => r.name name
  | visit relation => r.visit relation
  | relationAlias lead relation => r.text lead ++ r.mention relation
  | qualifier relation => if inside then r.mention relation ++ r.text "." else []
  | fail _ => []
  | seq first second => first.read r inside ++ second.read r inside
  | scope body => body.read r true
  | frame prologue body front link =>
    match r.order with
    | .meeting =>
      prologue.read r inside ++ body.read r inside ++ front.read r inside ++ link.read r inside
    | .writing =>
      prologue.read r inside ++ front.read r inside ++ link.read r inside ++ body.read r inside

/-- In the order of meeting the body of a frame comes before its front. -/
theorem read_frame_of_meeting {r : Reading α} (horder : r.order = .meeting) (inside : Bool)
    (prologue body front link : Layout) :
    (frame prologue body front link).read r inside =
      prologue.read r inside ++ body.read r inside ++ front.read r inside ++
        link.read r inside := by
  rw [read, horder]

/-- In the order of writing the body of a frame comes last. -/
theorem read_frame_of_writing {r : Reading α} (horder : r.order = .writing) (inside : Bool)
    (prologue body front link : Layout) :
    (frame prologue body front link).read r inside =
      prologue.read r inside ++ front.read r inside ++ link.read r inside ++
        body.read r inside := by
  rw [read, horder]

/-- Taking something from all that is read is a reading itself. -/
theorem read_flatMap (r : Reading α) (f : α → List β) (inside : Bool) (layout : Layout) :
    layout.read (r.flatMap f) inside = (layout.read r inside).flatMap f := by
  induction layout generalizing inside with
  | qualifier relation => cases inside <;> simp [read, Reading.flatMap]
  | seq first second hfirst hsecond => simp [read, hfirst, hsecond]
  | scope body hbody => simp [read, hbody]
  | frame prologue body front link hprologue hbody hfront hlink =>
    simp only [read, hprologue, hbody, hfront, hlink]
    cases r with | mk order => cases order <;> simp [Reading.flatMap]
  | _ => simp [read, Reading.flatMap]

/-- The values of a layout are the values of its tokens. -/
theorem read_literals (d : Dialect) (inside : Bool) (layout : Layout) :
    layout.read .literals inside = (layout.read (.tokens d) inside).flatMap Token.literals := by
  rw [← read_flatMap, Reading.tokens_flatMap_literals]

/-- What a layout writes between quotes is what its tokens write there. -/
theorem read_quotes (d : Dialect) (aliasOf : Identity → String) (inside : Bool)
    (layout : Layout) :
    layout.read (.quotes d aliasOf) inside =
      (layout.read (.tokens d) inside).flatMap (Token.quotes aliasOf) := by
  rw [← read_flatMap, Reading.tokens_flatMap_quotes]

end Layout

end BoundSql
