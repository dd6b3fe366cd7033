/-!
# Bound values

A statement never spells a host value in its text: each one travels beside the text and is bound
by the database driver. `Value` is such a value, `Value.kind` names its kind in diagnostics, and
`ToValue` lists the host types that may stand where a value is expected.
-/

set_option autoImplicit false
set_option relaxedAutoImplicit false

namespace BoundSql

/-- A value bound to a placeholder. -/
inductive Value where
  /-- The SQL NULL. -/
  | null
  /-- A truth value. -/
  | bool (flag : Bool)
  /-- A whole number. -/
  | int (number : Int64)
  /-- A floating-point number. -/
  | float (number : Float)
  /-- A text. -/
  | text (characters : String)
  /-- A string of bytes. -/
  | blob (bytes : List UInt8)
deriving DecidableEq, Inhabited

/-- The short name of a value's kind, for diagnostics. -/
def Value.kind : Value → String
  | .null => "null"
  | .bool _ => "bool"
  | .int _ => "int"
  | .float _ => "float"
  | .text _ => "text"
  | .blob _ => "blob"

/-- Host types whose inhabitants can be bound. -/
class ToValue (α : Type) where
  /-- The bound value of a host value. -/
  toValue : α → Value

export ToValue (toValue)

instance : ToValue Value where
  toValue value := value

instance : ToValue Bool where
  toValue flag := .bool flag

instance : ToValue Int64 where
  toValue number := .int number

instance : ToValue Int32 where
  toValue number := .int number.toInt64

instance : ToValue Int16 where
  toValue number := .int number.toInt64

instance : ToValue Int8 where
  toValue number := .int number.toInt64

instance : ToValue UInt32 where
  toValue number := .int (Int64.ofNat number.toNat)

instance : ToValue UInt16 where
  toValue number := .int (Int64.ofNat number.toNat)

instance : ToValue UInt8 where
  toValue number := .int (Int64.ofNat number.toNat)

instance : ToValue Float where
  toValue number := .float number

instance : ToValue Float32 where
  toValue number := .float number.toFloat

instance : ToValue String where
  toValue characters := .text characters

instance : ToValue (List UInt8) where
  toValue bytes := .blob bytes

instance : ToValue ByteArray where
  toValue bytes := .blob bytes.data.toList

/-- An absent host value is bound as NULL. -/
instance {α : Type} [ToValue α] : ToValue (Option α) where
  toValue
    | some value => toValue value
    | none => .null

end BoundSql
