/-!
# The shortest decimal of a floating-point number

Every finite floating-point number is a whole number times a power of two, and the reals that are
rounded to it form an interval around it. `Rounding.shortest` is the decimal of fewest digits in
this interval; of two such decimals it is the nearer, and of two equally near ones the even one. It
is found on the coarsest grid of powers of ten that has a point in the interval, in exact
arithmetic on natural numbers.
-/

set_option autoImplicit false
set_option relaxedAutoImplicit false

namespace BoundSql

/-- The number `coefficient * 10 ^ exponent`. -/
structure Decimal where
  /-- The digits of the number. -/
  coefficient : Nat
  /-- The power of ten by which they are moved. -/
  exponent : Int
deriving DecidableEq, Repr, Inhabited

/-- A positive number `value * 2 ^ exponent` with the interval of reals that are rounded to it. The
three numerators share the exponent. -/
structure Rounding where
  /-- The numerator of the number. -/
  value : Nat
  /-- The numerator of the lower end of the interval. -/
  lower : Nat
  /-- The numerator of the upper end of the interval. -/
  upper : Nat
  /-- The power of two by which all three are moved. -/
  exponent : Int
  /-- Whether the ends belong to the interval. -/
  closed : Bool
deriving DecidableEq, Repr, Inhabited

namespace Rounding

/-- The leading bit of a normal number, which stands above the 52 bits of its fraction. -/
def leadingBit : Nat := 0x10000000000000

/-- The interval of the number whose bits, without the sign, are the given ones: a fraction of 52
bits below an exponent of 11 bits. The gap below a power of two is half the gap above it. -/
def ofBits (bits : Nat) : Rounding :=
  let fraction : Nat := bits % leadingBit
  let scale : Nat := bits / leadingBit
  let significand : Nat := if scale = 0 then fraction else leadingBit + fraction
  { value := 4 * significand
    lower := 4 * significand - (if fraction = 0 ∧ 1 < scale then 1 else 2)
    upper := 4 * significand + 2
    exponent := (if scale = 0 then -1074 else (scale : Int) - 1075) - 2
    closed := significand % 2 = 0 }

/-- Tells whether `point * unit` lies in the interval whose ends are `lower` and `upper`. -/
def holds (closed : Bool) (lower upper unit point : Nat) : Bool :=
  if closed then lower ≤ point * unit && point * unit ≤ upper
  else lower < point * unit && point * unit < upper

/-- The point of a decimal grid that stands for the number, if the grid has a point in the
interval. The grid has the step `10 ^ step`. -/
def onGrid? (number : Rounding) (step : Int) : Option Nat :=
  let twos := Nat.pow 2 number.exponent.toNat
  let tens := Nat.pow 10 (-step).toNat
  let unit := Nat.pow 10 step.toNat * Nat.pow 2 (-number.exponent).toNat
  let value := number.value * twos * tens
  let inside := holds number.closed (number.lower * twos * tens) (number.upper * twos * tens) unit
  let below := value / unit
  let gap := value % unit
  let nearer :=
    if 2 * gap < unit then below
    else if unit < 2 * gap then below + 1
    else if below % 2 = 0 then below
    else below + 1
  let farther := if nearer = below then below + 1 else below
  if inside nearer then some nearer
  else if inside farther then some farther
  else none

/-- The point on the first grid that has one, going down from the step `step`. -/
def search (number : Rounding) : Nat → Int → Decimal
  | 0, step => ⟨0, step⟩
  | grids + 1, step =>
    match number.onGrid? step with
    | some point => ⟨point, step⟩
    | none => search number grids (step - 1)

/-- The decimal of fewest digits that is rounded to the number. No finite number reaches `10 ^ 309`,
and the finest grid that can be needed has the step `10 ^ -324`. -/
def shortest (number : Rounding) : Decimal := number.search 640 309

end Rounding

end BoundSql
