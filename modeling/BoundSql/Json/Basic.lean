import BoundSql.Json.Numeral

/-!
# Documents

A `Json` is a document as it is written: numbers keep their spelling, and an object keeps its
members in order, a repeated one included. `Json.print` writes a document without blanks.
-/

set_option autoImplicit false
set_option relaxedAutoImplicit false

namespace BoundSql

/-- A document. -/
inductive Json where
  /-- The word `null`. -/
  | null
  /-- A truth value. -/
  | bool (flag : Bool)
  /-- A number. -/
  | number (spelled : Numeral)
  /-- A text. -/
  | string (characters : String)
  /-- A list of documents. -/
  | array (items : List Json)
  /-- Named documents, in the order in which they are written. -/
  | object (members : List (String × Json))
deriving Inhabited

namespace Json

/-! ### Parts of a document -/

/-- The truth value that a document is. -/
def bool? : Json → Option Bool
  | bool flag => some flag
  | _ => none

/-- The text that a document is. -/
def string? : Json → Option String
  | string characters => some characters
  | _ => none

/-- The character that a document is, as a text of length one. -/
def char? : Json → Option Char
  | string characters =>
    match characters.toList with
    | [only] => some only
    | _ => none
  | _ => none

/-- The integer that a document is. -/
def int? : Json → Option Int
  | number spelled => spelled.toInt?
  | _ => none

/-- The integer of 64 bits that a document is. -/
def int64? (document : Json) : Option Int64 :=
  document.int?.bind fun n ↦
    if Int64.minValue.toInt ≤ n ∧ n ≤ Int64.maxValue.toInt then some (Int64.ofInt n) else none

/-- The byte that a document is. -/
def byte? (document : Json) : Option UInt8 :=
  document.int?.bind fun n ↦ if 0 ≤ n ∧ n < 256 then some (UInt8.ofNat n.toNat) else none

/-- The name of an alternative that has no content: its name alone, or its name before a null. -/
def plainVariant? : Json → Option String
  | string name => some name
  | object [(name, null)] => some name
  | _ => none

/-! ### Writing -/

/-- The digit of a number below sixteen. -/
def hexDigit (n : Nat) : Char := Nat.digitChar n

/-- The form of a character inside a text. A quote, a backslash and the control characters are
escaped, the common ones by a letter and the others by their number. -/
def encodeChar (c : Char) : List Char :=
  if c = '"' then ['\\', '"']
  else if c = '\\' then ['\\', '\\']
  else if c = '\x08' then ['\\', 'b']
  else if c = '\t' then ['\\', 't']
  else if c = '\n' then ['\\', 'n']
  else if c = '\x0c' then ['\\', 'f']
  else if c = '\r' then ['\\', 'r']
  else if c.toNat < 32 then
    ['\\', 'u', '0', '0', hexDigit (c.toNat / 16), hexDigit (c.toNat % 16)]
  else [c]

/-- A text between quotes. -/
def printString (characters : String) : List Char :=
  '"' :: characters.toList.flatMap encodeChar ++ ['"']

mutual

/-- The characters of a document. -/
def characters : Json → List Char
  | null => ['n', 'u', 'l', 'l']
  | bool true => ['t', 'r', 'u', 'e']
  | bool false => ['f', 'a', 'l', 's', 'e']
  | number spelled => spelled.print
  | string text => printString text
  | array items => '[' :: itemsCharacters items ++ [']']
  | object members => '\x7b' :: membersCharacters members ++ ['\x7d']

/-- The characters of a list of documents. -/
def itemsCharacters : List Json → List Char
  | [] => []
  | [last] => characters last
  | first :: second :: rest => characters first ++ ',' :: itemsCharacters (second :: rest)

/-- The characters of a list of named documents. -/
def membersCharacters : List (String × Json) → List Char
  | [] => []
  | [(name, last)] => printString name ++ ':' :: characters last
  | (name, first) :: second :: rest =>
    printString name ++ ':' :: characters first ++ ',' :: membersCharacters (second :: rest)

end

/-- The text of a document. -/
def print (document : Json) : String := String.ofList document.characters

end Json

end BoundSql
