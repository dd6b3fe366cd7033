import BoundSql.Proofs.Recovery.Texts

/-!
# A reader of expressions

`Reader.operand` reads an expression back from its symbols. Every choice is made by what comes next:
a value, a name, a star, a parenthesis or a word. A word is a function name if a parenthesis follows
it, and a keyword otherwise. Inside a pair of parentheses the reader reads an operand and then the
joint behind it (`Reader.Joint`), and no joint is the beginning of another. The reader knows no
precedences; it takes the leftmost expression and gives back the rest.
-/

set_option autoImplicit false
set_option relaxedAutoImplicit false

namespace BoundSql

namespace Reader

open BoundSql.Symbol

/-! ### Joints -/

/-- What can stand between the first operand of a group and what follows it. -/
inductive Joint where
  /-- An operator that is written behind its operand. -/
  | test (op : UnaryOp)
  /-- An operator between two operands. -/
  | operator (op : BinaryOp)
  /-- A connective, which may join any number of operands. -/
  | connective (joining : Connective)
  /-- A test for membership in a list, up to the parenthesis that opens the list. -/
  | membership (negated : Bool)
  /-- A test for lying between two bounds. -/
  | range (negated : Bool)
deriving DecidableEq

namespace Joint

/-- The text of a joint. -/
def spelling : Joint → String
  | test op => " " ++ op.spelling
  | operator op => " " ++ op.spelling ++ " "
  | connective joining => " " ++ joining.spelling ++ " "
  | membership negated => if negated then " NOT IN (" else " IN ("
  | range negated => if negated then " NOT BETWEEN " else " BETWEEN "

/-- All joints. -/
def all : List Joint :=
  [test .isNull, test .isNotNull, membership true, membership false, range true, range false,
    connective .and, connective .or] ++
  [BinaryOp.eq, .notEq, .lt, .ltEq, .gt, .gtEq, .add, .sub, .mul, .div, .mod, .concat, .like,
    .notLike, .ilike, .notIlike, .isDistinctFrom, .isNotDistinctFrom].map operator

/-- The joint in front of the symbols, and the symbols behind it. -/
def read (input : List Symbol) : Option (Joint × List Symbol) :=
  all.findSome? fun joint ↦ (expect joint.spelling input).map fun rest ↦ (joint, rest)

end Joint

/-! ### Readers -/

/-- An expression under all the collations that stand behind it, and the rest. -/
def collated (expr : Expr) (input : List Symbol) : Expr × List Symbol :=
  match hexpect : expect " COLLATE " input with
  | some (.quoted name :: rest) =>
    have : rest.length < input.length := by
      rw [eq_of_expect_eq_some hexpect]
      simp only [List.length_append, List.length_cons]
      omega
    collated (.collate expr name) rest
  | _ => (expr, input)
termination_by input.length

/-- A column behind its first name, which is its own unless a dot follows it. A column is read
without its relation. -/
def column (name : String) (input : List Symbol) : Option (Expr × List Symbol) :=
  match expect "." input with
  | none => some (.column ⟨default, name⟩, input)
  | some (.quoted own :: rest) => some (.column ⟨default, own⟩, rest)
  | some rest => do
    let rest ← expect "*" rest
    some (.star, rest)

section Readers

variable (read : List Symbol → Option (Expr × List Symbol))

/-- Operands that each stand behind a separator, up to a closing parenthesis. -/
def others (separator : String) : Nat → List Symbol → Option (List Expr × List Symbol)
  | 0, _ => none
  | bound + 1, input =>
    match expect ")" input with
    | some rest => some ([], rest)
    | none => do
      let rest ← expect separator input
      let (next, rest) ← read rest
      let (later, rest) ← others separator bound rest
      some (next :: later, rest)

/-- The operands of a list behind its opening parenthesis. -/
def operands (separator : String) (bound : Nat) (input : List Symbol) :
    Option (List Expr × List Symbol) :=
  match read input with
  | some (first, rest) => do
    let (later, rest) ← others read separator bound rest
    some (first :: later, rest)
  | none => do
    let rest ← expect ")" input
    some ([], rest)

/-- The branches of a CASE, up to its end. -/
def branches : Nat → List Symbol → Option ((List (Expr × Expr) × Option Expr) × List Symbol)
  | 0, _ => none
  | bound + 1, input =>
    match expect " WHEN " input with
    | some rest => do
      let (condition, rest) ← read rest
      let rest ← expect " THEN " rest
      let (result, rest) ← read rest
      let ((later, otherwise), rest) ← branches bound rest
      some (((condition, result) :: later, otherwise), rest)
    | none =>
      match expect " ELSE " input with
      | some rest => do
        let (otherwise, rest) ← read rest
        let rest ← expect " END" rest
        some (([], some otherwise), rest)
      | none => do
        let rest ← expect " END" input
        some (([], none), rest)

/-- What stands behind the first operand and the joint of a group, up to its end. -/
def joined (bound : Nat) (first : Expr) (input : List Symbol) :
    Joint → Option (Expr × List Symbol)
  | .test op => do
    let rest ← expect ")" input
    some (.unary op first, rest)
  | .operator op => do
    let (second, rest) ← read input
    let rest ← expect ")" rest
    some (.binary op first second, rest)
  | .connective joining => do
    let (later, rest) ← operands read (Joint.connective joining).spelling bound input
    some (.connected joining (first :: later), rest)
  | .membership negated => do
    let (candidates, rest) ← operands read ", " bound input
    let rest ← expect ")" rest
    some (.inList first negated candidates, rest)
  | .range negated => do
    let (low, rest) ← read input
    let rest ← expect " AND " rest
    let (high, rest) ← read rest
    let rest ← expect ")" rest
    some (.between first negated low high, rest)

/-- The operator in front of the only operand of a group, and the rest of the group. -/
def leading (op : UnaryOp) (input : List Symbol) : Option (Expr × List Symbol) := do
  let rest ← expect (op.spelling ++ " ") input
  let (operand, rest) ← read rest
  let rest ← expect ")" rest
  some (.unary op operand, rest)

/-- A group behind its opening parenthesis. No operand begins like an operator in front of one. -/
def group (bound : Nat) (input : List Symbol) : Option (Expr × List Symbol) :=
  match read input with
  | some (first, rest) => do
    let (joint, rest) ← Joint.read rest
    joined read bound first rest joint
  | none =>
    match leading read .not input with
    | some found => some found
    | none => leading read .neg input

/-- A function call or a cast behind the opening parenthesis. -/
def call (bound : Nat) (name : List Char) (input : List Symbol) : Option (Expr × List Symbol) :=
  match read input with
  | some (first, rest) =>
    match expect " AS " rest with
    | some rest =>
      if name = "CAST".toList then do
        let (typeName, rest) ← splitType false rest
        some (.cast first (String.ofList typeName), rest)
      else none
    | none => do
      let (later, rest) ← others read ", " bound rest
      some (.call (String.ofList name) false (first :: later), rest)
  | none =>
    match expect "DISTINCT " input with
    | some rest => do
      let (arguments, rest) ← operands read ", " bound rest
      some (.call (String.ofList name) true arguments, rest)
    | none => do
      let rest ← expect ")" input
      some (.call (String.ofList name) false [], rest)

/-- An expression that begins with a bare word, from the word and what stands behind it. -/
def worded (bound : Nat) (name : List Char) (input : List Symbol) : Option (Expr × List Symbol) :=
  match expect "(" input with
  | some rest => call read bound name rest
  | none =>
    if name = "DEFAULT".toList then some (.defaultValue, input)
    else if name = "CASE".toList then do
      let ((listed, otherwise), rest) ← branches read bound input
      some (.caseWhen listed otherwise, rest)
    else if name = "EXCLUDED.".toList then
      match input with
      | .quoted column :: rest => some (.excluded column, rest)
      | _ => none
    else none

/-- An expression without the collations behind it. -/
def primary (bound : Nat) : List Symbol → Option (Expr × List Symbol)
  | [] => none
  | .value bound :: rest => some (.literal bound, rest)
  | .quoted name :: rest => column name rest
  | .character c :: rest =>
    if c = '*' then some (.star, rest)
    else if c = '(' then group read bound rest
    else worded read bound (splitWord (.character c :: rest)).1 (splitWord (.character c :: rest)).2

end Readers

/-- The expression in front of the symbols, and the symbols behind it. The bound limits how deep the
expression is nested. -/
def operand : Nat → List Symbol → Option (Expr × List Symbol)
  | 0, _ => none
  | bound + 1, input => do
    let (expr, rest) ← primary (operand bound) bound input
    some (collated expr rest)
end Reader

end BoundSql
