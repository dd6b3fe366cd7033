import BoundSql.Text.Unprintable

/-!
# Names inside diagnostics

A diagnostic shows a name between double quotes, on one line and without invisible characters:
`quoted` writes a quote, a backslash and the common blanks as two-character escapes, and every
other unprintable character by its hexadecimal number. What is printable stands for itself.
-/

set_option autoImplicit false
set_option relaxedAutoImplicit false

namespace BoundSql.Text

/-- The lower-case hexadecimal digits of a number, without leading zeros. -/
def hexadecimal (n : Nat) : List Char := Nat.toDigits 16 n

/-- The form of one character inside a quoted name. -/
def escaped (c : Char) : List Char :=
  if c = '\x00' then ['\\', '0']
  else if c = '\t' then ['\\', 't']
  else if c = '\r' then ['\\', 'r']
  else if c = '\n' then ['\\', 'n']
  else if c = '\\' then ['\\', '\\']
  else if c = '"' then ['\\', '"']
  else if isUnprintable c then ['\\', 'u', '\x7b'] ++ hexadecimal c.toNat ++ ['\x7d']
  else [c]

/-- A name as a diagnostic shows it. -/
def quoted (name : String) : String :=
  String.ofList ('"' :: name.toList.flatMap escaped ++ ['"'])

end BoundSql.Text
