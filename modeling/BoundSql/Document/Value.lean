import BoundSql.Json.Float
import BoundSql.Json.Reader
import BoundSql.Value

/-!
# Values as documents

A value is written as an object with one member, whose name is the kind of the value; NULL is
written as its kind alone. `Value.parse?` reads what `Value.print` writes.
-/

set_option autoImplicit false
set_option relaxedAutoImplicit false

namespace BoundSql.Value

/-- A value as a document. -/
def toJson : Value → Json
  | null => .string "Null"
  | bool flag => .object [("Bool", .bool flag)]
  | int number => .object [("Int", .number (.ofInt number.toInt))]
  | float number => .object [("Float", .ofFloat number)]
  | text characters => .object [("Text", .string characters)]
  | blob bytes =>
    .object [("Blob", .array (bytes.map fun byte ↦ .number (.ofNat byte.toNat)))]

/-- The bytes that a document lists. -/
def bytes? : Json → Option (List UInt8)
  | .array items => items.mapM Json.byte?
  | _ => none

/-- The value of a kind with a content. -/
def ofMember? (kind : String) (content : Json) : Option Value :=
  if kind = "Bool" then content.bool?.map bool
  else if kind = "Int" then content.int64?.map int
  else if kind = "Float" then content.float?.map float
  else if kind = "Text" then content.string?.map text
  else if kind = "Blob" then (bytes? content).map blob
  else none

/-- The value that a document is. -/
def ofJson? (document : Json) : Option Value :=
  if document.plainVariant? = some "Null" then some null
  else
    match document with
    | .object [(kind, content)] => ofMember? kind content
    | _ => none

/-- The text of a value as a document. -/
def print (value : Value) : String := value.toJson.print

/-- The value that a text is as a document. -/
def parse? (text : String) : Option Value := (Json.read? text).bind ofJson?

end BoundSql.Value
