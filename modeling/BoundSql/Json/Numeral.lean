/-!
# Numbers in documents

A number of a JSON document is kept as it is spelled: `Numeral` holds the sign, the whole part, the
digits behind the point and the exponent, so that a reader can still tell the integer `1` from
`1.0` and from `1e0`. `Numeral.read` takes a number off the front of a text and `Numeral.print`
writes it.
-/

set_option autoImplicit false
set_option relaxedAutoImplicit false

namespace BoundSql

/-- The exponent of a number as it is spelled. -/
structure Exponent where
  /-- Whether a minus sign is written. -/
  negative : Bool
  /-- The digits behind the sign. -/
  magnitude : Nat
deriving DecidableEq, Repr, Inhabited

/-- A number as it is spelled. -/
structure Numeral where
  /-- Whether a minus sign is written. -/
  negative : Bool
  /-- The part before the point. -/
  whole : Nat
  /-- The digits behind the point, or none if there is no point. -/
  fraction : List (Fin 10)
  /-- The exponent, if one is written. -/
  exponent : Option Exponent
deriving DecidableEq, Repr, Inhabited

namespace Numeral

/-- The decimal digits of a number, the first one first. -/
def digits (n : Nat) : List Char := Nat.toDigits 10 n

/-- A natural number as a numeral. -/
def ofNat (n : Nat) : Numeral := ⟨false, n, [], none⟩

/-- An integer as a numeral. -/
def ofInt (n : Int) : Numeral := ⟨n < 0, n.natAbs, [], none⟩

/-- The integer that a numeral spells, if it has neither point nor exponent. A negative zero is
no integer. -/
def toInt? (numeral : Numeral) : Option Int :=
  match numeral with
  | ⟨false, whole, [], none⟩ => some whole
  | ⟨true, whole, [], none⟩ => if whole = 0 then none else some (-(whole : Int))
  | _ => none

/-- The text of a numeral. The sign of an exponent is always written. -/
def print (numeral : Numeral) : List Char :=
  (if numeral.negative then ['-'] else []) ++ digits numeral.whole ++
    (if numeral.fraction.isEmpty then []
      else '.' :: numeral.fraction.map fun digit ↦ Nat.digitChar digit.val) ++
    (match numeral.exponent with
      | none => []
      | some exponent =>
        'e' :: (if exponent.negative then '-' else '+') :: digits exponent.magnitude)

/-- The value of a decimal digit. -/
def digitValue (c : Char) : Fin 10 := Fin.ofNat 10 (c.toNat - '0'.toNat)

/-- Takes a minus sign off the front. -/
def readSign : List Char → Bool × List Char
  | [] => (false, [])
  | c :: rest => if c = '-' then (true, rest) else (false, c :: rest)

/-- Takes the whole part off the front: a zero, or digits that do not start with one. -/
def readWhole (s : List Char) : Option (Nat × List Char) :=
  match s.takeWhile Char.isDigit with
  | [] => none
  | c :: more =>
    if c = '0' ∧ more ≠ [] then none
    else some (Nat.ofDigitChars 10 (c :: more) 0, s.dropWhile Char.isDigit)

/-- Takes a point with digits behind it off the front, if there is a point. -/
def readFraction : List Char → Option (List (Fin 10) × List Char)
  | [] => some ([], [])
  | c :: rest =>
    if c = '.' then
      match rest.takeWhile Char.isDigit with
      | [] => none
      | digits => some (digits.map digitValue, rest.dropWhile Char.isDigit)
    else some ([], c :: rest)

/-- Takes the digits of an exponent off the front. -/
def readMagnitude (negative : Bool) (s : List Char) : Option (Option Exponent × List Char) :=
  match s.takeWhile Char.isDigit with
  | [] => none
  | digits =>
    some (some ⟨negative, Nat.ofDigitChars 10 digits 0⟩, s.dropWhile Char.isDigit)

/-- Takes an exponent off the front, if there is one. -/
def readExponent : List Char → Option (Option Exponent × List Char)
  | [] => some (none, [])
  | c :: rest =>
    if c = 'e' ∨ c = 'E' then
      match rest with
      | [] => none
      | sign :: more =>
        if sign = '-' then readMagnitude true more
        else if sign = '+' then readMagnitude false more
        else readMagnitude false (sign :: more)
    else some (none, c :: rest)

/-- Takes a number off the front of a text. -/
def read (s : List Char) : Option (Numeral × List Char) := do
  let (negative, s) := readSign s
  let (whole, s) ← readWhole s
  let (fraction, s) ← readFraction s
  let (exponent, s) ← readExponent s
  some (⟨negative, whole, fraction, exponent⟩, s)

end Numeral

end BoundSql
