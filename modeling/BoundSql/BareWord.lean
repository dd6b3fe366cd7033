import BoundSql.Refusal

/-!
# Bare words

Function names and type names are the only texts of a tree that are written without quotes, so
they have to belong to a small grammar: `isFunctionName` accepts a word with at most one qualifier
before it, `isTypeName` accepts words, one modifier in parentheses, and empty brackets. Both read
the text once from left to right. `BareWord.check` gives the accepted text back unchanged.
-/

set_option autoImplicit false
set_option relaxedAutoImplicit false

namespace BoundSql

namespace Text

/-- The characters that may start a word: an ASCII letter or an underscore. -/
def isWordStart (c : Char) : Bool := c.isAlpha || c = '_'

/-- The characters that may continue a word: an ASCII letter, a digit or an underscore. -/
def isWordPart (c : Char) : Bool := c.isAlphanum || c = '_'

/-- What may follow the part of a function name read so far. -/
inductive FunctionPosition where
  /-- The start of the first word. -/
  | start
  /-- Inside the first word. -/
  | first
  /-- Just behind the dot. -/
  | dot
  /-- Inside the second word. -/
  | second
deriving DecidableEq, Repr

/-- Tells whether the rest of a text completes a function name. -/
def FunctionPosition.accepts : FunctionPosition → List Char → Bool
  | .first, [] | .second, [] => true
  | .start, [] | .dot, [] => false
  | .start, c :: rest => isWordStart c && accepts .first rest
  | .first, c :: rest =>
    if c = '.' then accepts .dot rest else isWordPart c && accepts .first rest
  | .dot, c :: rest => isWordStart c && accepts .second rest
  | .second, c :: rest => isWordPart c && accepts .second rest

/-- A function name is a word, or two words with a dot between them. -/
def isFunctionName (characters : List Char) : Bool := FunctionPosition.start.accepts characters

/-- What may follow the part of a type name read so far. -/
inductive TypePosition where
  /-- The start of a word. -/
  | start
  /-- Inside a word. -/
  | word
  /-- Just behind the opening parenthesis. -/
  | opened
  /-- Inside the first number. -/
  | precision
  /-- Just behind the comma. -/
  | comma
  /-- Behind the comma and one space. -/
  | blank
  /-- Inside the second number. -/
  | scale
  /-- Behind the modifier or a pair of brackets. -/
  | closed
  /-- Just behind an opening bracket. -/
  | bracket
deriving DecidableEq, Repr

/-- Tells whether the rest of a text completes a type name. -/
def TypePosition.accepts : TypePosition → List Char → Bool
  | .word, [] | .closed, [] => true
  | .start, [] | .opened, [] | .precision, [] | .comma, [] | .blank, [] | .scale, []
  | .bracket, [] => false
  | .start, c :: rest => isWordStart c && accepts .word rest
  | .word, c :: rest =>
    if c = ' ' then accepts .start rest
    else if c = '(' then accepts .opened rest
    else if c = '[' then accepts .bracket rest
    else isWordPart c && accepts .word rest
  | .opened, c :: rest => c.isDigit && accepts .precision rest
  | .precision, c :: rest =>
    if c = ',' then accepts .comma rest
    else if c = ')' then accepts .closed rest
    else c.isDigit && accepts .precision rest
  | .comma, c :: rest =>
    if c = ' ' then accepts .blank rest else c.isDigit && accepts .scale rest
  | .blank, c :: rest => c.isDigit && accepts .scale rest
  | .scale, c :: rest =>
    if c = ')' then accepts .closed rest else c.isDigit && accepts .scale rest
  | .closed, c :: rest => c = '[' && accepts .bracket rest
  | .bracket, c :: rest => c = ']' && accepts .closed rest

/-- A type name is words with single spaces between them, then at most one modifier of one or two
numbers in parentheses, then any number of empty brackets. -/
def isTypeName (characters : List Char) : Bool := TypePosition.start.accepts characters

end Text

/-- The kinds of bare word. -/
inductive BareWord where
  /-- The name of a called function. -/
  | function
  /-- The type of a cast. -/
  | type
deriving DecidableEq, Repr, Inhabited

namespace BareWord

/-- Tells whether a text may be written bare. -/
def allows : BareWord → String → Bool
  | .function, word => Text.isFunctionName word.toList
  | .type, word => Text.isTypeName word.toList

/-- What is wrong with a text that may not be written bare. -/
def fault : BareWord → NameFault
  | .function => .notFunctionName
  | .type => .notTypeName

/-- The error of writing a text bare, if it may not be. -/
def error? (kind : BareWord) (word : String) : Option Refusal :=
  if kind.allows word then none else some (.badName word kind.fault)

/-- The text itself, if it may be written bare. -/
def check (kind : BareWord) (word : String) : Except Refusal String :=
  match kind.error? word with
  | some error => .error error
  | none => .ok word

end BareWord

end BoundSql
