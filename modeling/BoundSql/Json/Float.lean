import BoundSql.Decimal.Shortest
import BoundSql.Json.Basic

/-!
# Floating-point numbers in documents

A finite number is written with the fewest digits that are read back as the same number: with a
point where it lies between `10 ^ -5` and `10 ^ 16`, and with an exponent elsewhere. A number that
is not finite has no digits and is written as `null`.

A number is read by its leading digits, as many as fit into 64 bits; the rest of the whole part
only counts towards the exponent and the rest of the fraction is dropped. The digits become a
floating-point number first and are then moved by a power of ten.
-/

set_option autoImplicit false
set_option relaxedAutoImplicit false

namespace BoundSql

namespace Decimal

/-- The digits of a number as a fraction, with zeros in front up to a width. -/
def fractionDigits (width n : Nat) : List (Fin 10) :=
  let digits := (Numeral.digits n).map Numeral.digitValue
  List.replicate (width - digits.length) (Numeral.digitValue '0') ++ digits

/-- A decimal as a numeral: with a point between `10 ^ -5` and `10 ^ 16`, and with one digit before
the point and an exponent elsewhere. -/
def toNumeral (negative : Bool) (decimal : Decimal) : Numeral :=
  let digits := (Numeral.digits decimal.coefficient).map Numeral.digitValue
  let point := (digits.length : Int) + decimal.exponent
  if 0 ≤ decimal.exponent ∧ point ≤ 16 then
    ⟨negative, decimal.coefficient * Nat.pow 10 decimal.exponent.toNat, fractionDigits 1 0, none⟩
  else if -5 < point ∧ point ≤ 16 then
    let places := (-decimal.exponent).toNat
    ⟨negative, decimal.coefficient / Nat.pow 10 places,
      fractionDigits places (decimal.coefficient % Nat.pow 10 places), none⟩
  else
    ⟨negative, (digits.head?.map Fin.val).getD 0, digits.drop 1,
      some ⟨point - 1 < 0, (point - 1).natAbs⟩⟩

end Decimal

/-- The sign among the bits of a floating-point number. -/
def Json.signBit : Nat := 0x8000000000000000

/-- The bits of the positive infinity. The bits of finite numbers without their sign are below
it. -/
def Json.infinite : Nat := 0x7ff0000000000000

/-- A floating-point number as a document. -/
def Json.ofFloat (number : Float) : Json :=
  let bits := number.toBits.toNat
  let negative : Bool := decide (signBit ≤ bits)
  let size := bits % signBit
  if infinite ≤ size then .null
  else if size = 0 then .number ⟨negative, 0, Decimal.fractionDigits 1 0, none⟩
  else .number ((Rounding.ofBits size).shortest.toNumeral negative)

namespace Numeral

/-- The value of the leading digits that fit into 64 bits behind `value`, and the digits behind
them. -/
def fitting (value : Nat) : List (Fin 10) → Nat × List (Fin 10)
  | [] => (value, [])
  | digit :: rest =>
    if value * 10 + digit.val < UInt64.size then fitting (value * 10 + digit.val) rest
    else (value, digit :: rest)

/-- A power of ten as a floating-point number. -/
def powerOfTen (exponent : Nat) : Float := Float.ofScientific 1 false exponent

/-- A number moved by a power of ten, unless the result is too large. Powers beyond `10 ^ 308` are
applied in steps. -/
def scaled (number : Float) (exponent : Int) : Option Float :=
  if exponent.natAbs ≤ 308 then
    if 0 ≤ exponent then
      let product := number * powerOfTen exponent.natAbs
      if product.isInf then none else some product
    else some (number / powerOfTen exponent.natAbs)
  else if number == 0 then some number
  else if 0 ≤ exponent then none
  else scaled (number / powerOfTen 308) (exponent + 308)
termination_by (-exponent).toNat
decreasing_by omega

/-- The floating-point number without its sign that a numeral spells, unless it is too large. An
exponent beyond 32 bits leaves nothing but zero or a number that is too large. -/
def magnitude? (numeral : Numeral) : Option Float :=
  let whole := fitting 0 ((digits numeral.whole).map digitValue)
  let fraction := fitting whole.1 numeral.fraction
  let significand := fraction.1.toUInt64.toFloat
  let position : Int :=
    (whole.2.length : Int) - ((numeral.fraction.length - fraction.2.length : Nat) : Int)
  match numeral.exponent with
  | none => scaled significand position
  | some ⟨negative, magnitude⟩ =>
    if Int32.maxValue.toInt < magnitude then
      if negative ∨ fraction.1 = 0 then some 0 else none
    else scaled significand (if negative then position - magnitude else position + magnitude)

/-- The floating-point number that a numeral spells, unless it is too large. -/
def toFloat? (numeral : Numeral) : Option Float :=
  numeral.magnitude?.map fun size ↦ if numeral.negative then -size else size

end Numeral

/-- The floating-point number that a document is. -/
def Json.float? : Json → Option Float
  | .number spelled => spelled.toFloat?
  | _ => none

end BoundSql
