import BoundSql.Json.Basic

/-!
# Reading documents

`Json.read?` accepts exactly one document with blanks around it. Every function here takes a part of
a document off the front of a text and yields the rest behind it. The readers of nested parts count
down from a bound on their steps, which `Json.read?` takes from the length of the text.
-/

set_option autoImplicit false
set_option relaxedAutoImplicit false

namespace BoundSql.Json

/-- The blanks that may stand between the parts of a document. -/
def isBlank (c : Char) : Bool := c = ' ' || c = '\n' || c = '\t' || c = '\r'

/-- The text behind its leading blanks. -/
def skipBlanks (s : List Char) : List Char := s.dropWhile isBlank

/-! ### Texts -/

/-- The value of a hexadecimal digit in either case. -/
def hexValue? (c : Char) : Option Nat :=
  if '0' ≤ c ∧ c ≤ '9' then some (c.toNat - '0'.toNat)
  else if 'a' ≤ c ∧ c ≤ 'f' then some (c.toNat - 'a'.toNat + 10)
  else if 'A' ≤ c ∧ c ≤ 'F' then some (c.toNat - 'A'.toNat + 10)
  else none

/-- The number that four hexadecimal digits spell. -/
def codeUnit? (first second third fourth : Char) : Option Nat := do
  let a ← hexValue? first
  let b ← hexValue? second
  let c ← hexValue? third
  let d ← hexValue? fourth
  some (((a * 16 + b) * 16 + c) * 16 + d)

/-- Tells whether a number is the first half of a pair that spells one character. -/
def isHighHalf (unit : Nat) : Bool := 0xd800 ≤ unit && unit < 0xdc00

/-- Tells whether a number is the second half of such a pair. -/
def isLowHalf (unit : Nat) : Bool := 0xdc00 ≤ unit && unit < 0xe000

/-- The character that a pair of halves spells. -/
def joinHalves (high low : Nat) : Char :=
  Char.ofNat (0x10000 + (high - 0xd800) * 0x400 + (low - 0xdc00))

/-- The character that a letter behind a backslash stands for. -/
def escapeChar? (c : Char) : Option Char :=
  if c = '"' then some '"'
  else if c = '\\' then some '\\'
  else if c = '/' then some '/'
  else if c = 'b' then some '\x08'
  else if c = 'f' then some '\x0c'
  else if c = 'n' then some '\n'
  else if c = 'r' then some '\r'
  else if c = 't' then some '\t'
  else none

/-- Puts a character in front of a text that is read. -/
def withChar (c : Char) (tail : Option (List Char × List Char)) :
    Option (List Char × List Char) :=
  tail.map fun read ↦ (c :: read.1, read.2)

/-- Takes the rest of a text and its closing quote off the front. A half of a pair may not stand
alone, and control characters have to be escaped. -/
def readString : List Char → Option (List Char × List Char)
  | [] => none
  | c :: rest =>
    if c = '"' then some ([], rest)
    else if c = '\\' then
      match rest with
      | [] => none
      | letter :: rest =>
        if letter = 'u' then
          match rest with
          | u₁ :: u₂ :: u₃ :: u₄ :: rest =>
            match codeUnit? u₁ u₂ u₃ u₄ with
            | none => none
            | some unit =>
              if isHighHalf unit then
                match rest with
                | backslash :: u :: v₁ :: v₂ :: v₃ :: v₄ :: rest =>
                  if backslash = '\\' ∧ u = 'u' then
                    match codeUnit? v₁ v₂ v₃ v₄ with
                    | none => none
                    | some low =>
                      if isLowHalf low then withChar (joinHalves unit low) (readString rest)
                      else none
                  else none
                | _ => none
              else if isLowHalf unit then none
              else withChar (Char.ofNat unit) (readString rest)
          | _ => none
        else
          match escapeChar? letter with
          | none => none
          | some meant => withChar meant (readString rest)
    else if c.toNat < 32 then none
    else withChar c (readString rest)

/-! ### Documents -/

/-- Takes a fixed word off the front, and yields the document it stands for. -/
def readWord (word : List Char) (document : Json) (s : List Char) : Option (Json × List Char) :=
  if word.isPrefixOf s then some (document, s.drop word.length) else none

mutual

/-- Takes a document off the front. -/
def readValue : Nat → List Char → Option (Json × List Char)
  | 0, _ => none
  | steps + 1, s =>
    match skipBlanks s with
    | [] => none
    | c :: rest =>
      if c = '"' then
        (readString rest).map fun read ↦ (string (String.ofList read.1), read.2)
      else if c = '[' then
        match skipBlanks rest with
        | [] => none
        | next :: behind =>
          if next = ']' then some (array [], behind)
          else (readItems steps rest).map fun read ↦ (array read.1, read.2)
      else if c = '\x7b' then
        match skipBlanks rest with
        | [] => none
        | next :: behind =>
          if next = '\x7d' then some (object [], behind)
          else (readMembers steps rest).map fun read ↦ (object read.1, read.2)
      else if c = 'n' then readWord ['u', 'l', 'l'] null rest
      else if c = 't' then readWord ['r', 'u', 'e'] (bool true) rest
      else if c = 'f' then readWord ['a', 'l', 's', 'e'] (bool false) rest
      else (Numeral.read (c :: rest)).map fun read ↦ (number read.1, read.2)

/-- Takes the items of a list and its closing bracket off the front. -/
def readItems : Nat → List Char → Option (List Json × List Char)
  | 0, _ => none
  | steps + 1, s =>
    match readValue steps s with
    | none => none
    | some (first, rest) =>
      match skipBlanks rest with
      | [] => none
      | c :: rest =>
        if c = ',' then (readItems steps rest).map fun read ↦ (first :: read.1, read.2)
        else if c = ']' then some ([first], rest)
        else none

/-- Takes the members of an object and its closing brace off the front. -/
def readMembers : Nat → List Char → Option (List (String × Json) × List Char)
  | 0, _ => none
  | steps + 1, s =>
    match skipBlanks s with
    | [] => none
    | quote :: rest =>
      if quote = '"' then
        match readString rest with
        | none => none
        | some (name, rest) =>
          match skipBlanks rest with
          | [] => none
          | colon :: rest =>
            if colon = ':' then
              match readValue steps rest with
              | none => none
              | some (first, rest) =>
                match skipBlanks rest with
                | [] => none
                | c :: rest =>
                  if c = ',' then
                    (readMembers steps rest).map fun read ↦
                      ((String.ofList name, first) :: read.1, read.2)
                  else if c = '\x7d' then some ([(String.ofList name, first)], rest)
                  else none
            else none
      else none

end

/-- The document that a text is, with nothing but blanks around it. -/
def read? (text : String) : Option Json :=
  match readValue (2 * text.toList.length + 1) text.toList with
  | none => none
  | some (document, rest) => if skipBlanks rest = [] then some document else none

end BoundSql.Json
